import ElfInspect.Proofs.Scopes
import Mathlib.Data.List.Induction
import Mathlib.Tactic.ByContra

/-!
# The language of the command line

Which lists of words make sense, and what they ask for, said without the scanner. Before the scope
stand a path and options in any order, none of them twice, and behind it options alone. The state
of the scanner after such items can be told from the items, and one item more is one step of it.

The words that ask for help have no meaning here: to the scanner they are words like all others.
-/

namespace ElfInspect.CommandLine

/-! ### Single words -/

/-- The version option, long or short; the short one may have more letters behind it. -/
def AsksVersion (text : String) : Prop :=
  text = "--version" ∨ ['-', 'V'] <+: text.toList

/-- How a word of a kind is spelled. -/
def Word.Spelled (text : String) : Word → Prop
  | separator => text = "--"
  | version => AsksVersion text
  | noColor => text = "--no-color"
  | format => text = "--format"
  | formatIs value => text = "--format=" ++ value
  | unknownOption => text.toList.head? = some '-' ∧ text ≠ "-" ∧ ¬ AsksVersion text
  | bare => text = "-" ∨ text.toList.head? ≠ some '-'

lemma afterStart?_eq_some_iff {start text rest : List Char} :
    afterStart? start text = some rest ↔ text = start ++ rest := by
  fun_induction afterStart? start text with
  | case1 text => simp
  | case2 char start => simp
  | case3 start first text ih => simpa using ih
  | case4 char start first text hne => simp [Ne.symm hne]

theorem spelled_ofText (text : String) : (Word.ofText text).Spelled text := by
  unfold Word.ofText
  split
  · rfl
  · exact .inl rfl
  · rfl
  · rfl
  · exact .inl rfl
  · rename_i hversion _ _ hdash
    split
    · rename_i value hvalue
      rw [afterStart?_eq_some_iff] at hvalue
      show text = "--format=" ++ String.ofList value
      rw [← String.toList_inj, hvalue, String.toList_append]
      simp only [String.toList_ofList]
    · rename_i rest _ htext
      exact .inr ⟨rest, htext.symm⟩
    · rename_i rest hshort _ htext
      refine ⟨by rw [htext, List.head?_cons], hdash, ?_⟩
      rintro (rfl | ⟨more, hmore⟩)
      · exact hversion rfl
      · rw [← hmore] at htext
        exact hshort more (List.cons.inj htext).2.symm
    · rename_i hother
      refine .inr fun hhead => ?_
      obtain ⟨rest, hrest⟩ := List.head?_eq_some_iff.mp hhead
      exact hother rest hrest

lemma spelled_of_ofText {text : String} {word : Word} (h : Word.ofText text = word) :
    word.Spelled text := by
  rw [← h]
  exact spelled_ofText text

/-- Every word that is not bare begins with a dash. -/
lemma head?_of_spelled {text : String} {word : Word} (h : word.Spelled text)
    (hword : word ≠ .bare) : text.toList.head? = some '-' := by
  cases word with
  | bare => exact (hword rfl).elim
  | separator | noColor | format =>
    subst h
    rfl
  | formatIs value =>
    subst h
    rw [String.toList_append]
    rfl
  | unknownOption => exact h.1
  | version =>
    rcases h with rfl | ⟨rest, hrest⟩
    · rfl
    · rw [← hrest]
      rfl

lemma ofText_of_bare {text : String} (h : text = "-" ∨ text.toList.head? ≠ some '-') :
    Word.ofText text = .bare := by
  rcases h with rfl | hhead
  · decide
  · by_contra hword
    exact hhead (head?_of_spelled (spelled_ofText text) hword)

lemma ofText_of_asksVersion {text : String} (h : AsksVersion text) :
    Word.ofText text = .version := by
  rcases h with rfl | ⟨rest, hrest⟩
  · decide
  · have htext : text.toList = '-' :: 'V' :: rest := hrest.symm
    have hspelled := spelled_ofText text
    generalize Word.ofText text = word at hspelled
    cases word with
    | version => rfl
    | separator | noColor | format =>
      subst hspelled
      exact absurd htext (by simp)
    | formatIs value =>
      subst hspelled
      rw [String.toList_append] at htext
      exact absurd htext (by simp)
    | unknownOption => exact (hspelled.2.2 (.inr ⟨rest, hrest⟩)).elim
    | bare =>
      rcases hspelled with rfl | hhead
      · cases htext
      · exact (hhead (by rw [htext, List.head?_cons])).elim

lemma ofName?_eq_some_iff {name : String} {scope : Scope} :
    Scope.ofName? name = some scope ↔ name = scope.name := by
  refine ⟨fun h => ?_, fun h => ?_⟩
  · have hfound := List.find?_some h
    exact (of_decide_eq_true hfound).symm
  · rw [h, Scope.ofName?_name]

lemma ofName?_eq_none_iff {name : String} :
    Scope.ofName? name = none ↔ ∀ scope : Scope, name ≠ scope.name := by
  simp only [Option.eq_none_iff_forall_ne_some, ne_eq, ofName?_eq_some_iff]

lemma formatOfName?_eq_some_iff {name : String} {format : Format} :
    Format.ofName? name = some format ↔ name = format.name := by
  refine ⟨fun h => ?_, fun h => ?_⟩
  · have hfound := List.find?_some h
    exact (of_decide_eq_true hfound).symm
  · rw [h, Format.ofName?_name]

lemma ofText_scopeName (scope : Scope) : Word.ofText scope.name = .bare := by
  cases scope <;> decide

lemma ofText_joined (format : Format) :
    Word.ofText ("--format=" ++ format.name) = .formatIs format.name := by
  cases format <;> decide

/-! ### The items on one side of a scope -/

/-- A path or an option as it stands on a command line. -/
inductive Item where
  | path (word : String)
  /-- The format option, its value in the same word or in the next one. -/
  | format (value : Format) (joined : Bool)
  | noColor
  deriving DecidableEq

namespace Item

def words : Item → List String
  | .path word => [word]
  | .format value true => ["--format=" ++ value.name]
  | .format value false => ["--format", value.name]
  | .noColor => ["--no-color"]

def path? : Item → Option String
  | .path word => some word
  | _ => none

def format? : Item → Option Format
  | .format value _ => some value
  | _ => none

end Item

/-- The words of items in their order. -/
def written (items : List Item) : List String :=
  items.flatMap Item.words

/-- A word that can only be a path. -/
structure IsPathWord (word : String) : Prop where
  ne_empty : word ≠ ""
  ne_name : ∀ scope : Scope, word ≠ scope.name
  bare : word = "-" ∨ word.toList.head? ≠ some '-'

/-- The items hold this path or none, and these options, in any order and nothing twice. -/
structure Side (items : List Item) (path? : Option String) (options : Options) : Prop where
  isPathWord : ∀ word, Item.path word ∈ items → IsPathWord word
  path : items.filterMap Item.path? = path?.toList
  format : items.filterMap Item.format? = options.format?.toList
  noColor : items.count .noColor = options.noColor.toNat

section Written

variable {text : String} {items : List Item} {rest : List String}

lemma written_append_singleton (items : List Item) (item : Item) (rest : List String) :
    written (items ++ [item]) ++ rest = written items ++ (item.words ++ rest) := by
  simp [written]

lemma written_path :
    written items ++ text :: rest = written (items ++ [.path text]) ++ rest :=
  (written_append_singleton items (.path text) rest).symm

lemma written_noColor (h : Word.ofText text = .noColor) :
    written items ++ text :: rest = written (items ++ [.noColor]) ++ rest := by
  have htext : text = "--no-color" := spelled_of_ofText h
  rw [htext, written_append_singleton]
  rfl

lemma written_formatIs {format : Format} (h : Word.ofText text = .formatIs format.name) :
    written items ++ text :: rest = written (items ++ [.format format true]) ++ rest := by
  have htext : text = "--format=" ++ format.name := spelled_of_ofText h
  rw [htext, written_append_singleton]
  rfl

lemma written_format {format : Format} (h : Word.ofText text = .format) :
    written items ++ text :: format.name :: rest =
      written (items ++ [.format format false]) ++ rest := by
  have htext : text = "--format" := spelled_of_ofText h
  rw [htext, written_append_singleton]
  rfl

end Written

lemma append_singleton_eq_toList_iff {α : Type} {found : List α} {last : α} {value? : Option α} :
    found ++ [last] = value?.toList ↔ found = [] ∧ value? = some last := by
  cases value? with
  | none => simp
  | some value => simp [List.append_eq_singleton_iff, eq_comm]

/-! ### One item more -/

section Side

variable {path? : Option String} {path text value : String} {options found : Options}
  {items : List Item}

lemma takePath_eq_ok_iff : takePath text = .ok path ↔ text ≠ "" ∧ path = text := by
  unfold takePath
  split
  · rename_i hempty
    exact ⟨nofun, fun h => (h.1 (String.isEmpty_iff.mp hempty)).elim⟩
  · rename_i hempty
    rw [Except.ok.injEq]
    exact ⟨fun h => ⟨fun htext => hempty (String.isEmpty_iff.mpr htext), h.symm⟩,
      fun h => h.2.symm⟩

lemma setNoColor_eq_ok_iff :
    options.setNoColor = .ok found ↔
      options.noColor = false ∧ found = { options with noColor := true } := by
  unfold Options.setNoColor
  cases options.noColor with
  | true => exact ⟨nofun, fun h => nomatch h.1⟩
  | false => exact ⟨fun h => ⟨rfl, (Except.ok.inj h).symm⟩, fun h => congrArg Except.ok h.2.symm⟩

lemma setFormat_eq_ok_iff :
    options.setFormat value = .ok found ↔
      ∃ format : Format, value = format.name ∧ options.format? = none ∧
        found = { options with format? := some format } := by
  unfold Options.setFormat
  refine ⟨fun h => ?_, ?_⟩
  · split at h
    · cases h
    · cases h
    · rename_i format hnone hformat
      exact ⟨format, formatOfName?_eq_some_iff.mp hformat, hnone, (Except.ok.inj h).symm⟩
  · rintro ⟨format, rfl, hnone, rfl⟩
    rw [hnone, Format.ofName?_name]

/-- No items are no path and no options. -/
lemma side_nil_iff : Side [] path? options ↔ path? = none ∧ options = {} := by
  refine ⟨fun side => ?_, ?_⟩
  · obtain ⟨-, hpath, hformat, hnoColor⟩ := side
    obtain ⟨format?, noColor⟩ := options
    cases path? <;> cases format? <;> cases noColor <;> trivial
  · rintro ⟨rfl, rfl⟩
    exact ⟨nofun, rfl, rfl, rfl⟩

/-- A path more is a path where there was none. -/
lemma side_append_path_iff :
    Side (items ++ [.path text]) path? options ↔
      IsPathWord text ∧ path? = some text ∧ Side items none options := by
  refine ⟨fun side => ?_, ?_⟩
  · have hpath := side.path
    rw [List.filterMap_append] at hpath
    obtain ⟨hbefore, hlast⟩ := append_singleton_eq_toList_iff.mp hpath
    refine ⟨side.isPathWord text (by simp), hlast, ?_, hbefore, ?_, ?_⟩
    · exact fun word hmem => side.isPathWord word (List.mem_append_left _ hmem)
    · simpa [List.filterMap_cons, Item.format?] using side.format
    · simpa using side.noColor
  · rintro ⟨hword, rfl, side⟩
    refine ⟨fun word hmem => ?_, ?_, ?_, ?_⟩
    · rcases List.mem_append.mp hmem with hmem | hmem
      · exact side.isPathWord word hmem
      · cases List.mem_singleton.mp hmem
        exact hword
    · rw [List.filterMap_append, side.path]
      rfl
    · simpa [List.filterMap_cons, Item.format?] using side.format
    · simpa using side.noColor

/-- A format more is a step of the options. -/
lemma side_append_format_iff {format : Format} {joined : Bool} :
    Side (items ++ [.format format joined]) path? found ↔
      ∃ options, Side items path? options ∧ options.setFormat format.name = .ok found := by
  refine ⟨fun side => ?_, ?_⟩
  · have hformat := side.format
    rw [List.filterMap_append] at hformat
    obtain ⟨hbefore, hlast⟩ := append_singleton_eq_toList_iff.mp hformat
    refine ⟨{ found with format? := none }, ⟨?_, ?_, hbefore, ?_⟩, ?_⟩
    · exact fun word hmem => side.isPathWord word (List.mem_append_left _ hmem)
    · simpa [List.filterMap_cons, Item.path?] using side.path
    · simpa using side.noColor
    · rw [setFormat_eq_ok_iff]
      exact ⟨format, rfl, rfl, by rw [← hlast]⟩
  · rintro ⟨options, side, hset⟩
    obtain ⟨other, hname, hnone, rfl⟩ := setFormat_eq_ok_iff.mp hset
    have hother : other = format :=
      Option.some.inj ((formatOfName?_eq_some_iff.mpr hname).symm.trans format.ofName?_name)
    have hformat := side.format
    rw [hnone] at hformat
    refine ⟨?_, ?_, ?_, ?_⟩
    · simpa using side.isPathWord
    · simpa [List.filterMap_cons, Item.path?] using side.path
    · rw [List.filterMap_append, hformat, hother]
      rfl
    · simpa using side.noColor

/-- Two dashes and the name of the option more are a step of the options too. -/
lemma side_append_noColor_iff :
    Side (items ++ [.noColor]) path? found ↔
      ∃ options, Side items path? options ∧ options.setNoColor = .ok found := by
  refine ⟨fun side => ?_, ?_⟩
  · have hnoColor := side.noColor
    have hcount : found.noColor = true ∧ items.count .noColor = 0 := by
      rw [List.count_append] at hnoColor
      cases hfound : found.noColor with
      | true => exact ⟨rfl, by simpa [hfound] using hnoColor⟩
      | false => exact absurd hnoColor (by simp [hfound])
    refine ⟨{ found with noColor := false }, ⟨?_, ?_, ?_, hcount.2⟩, ?_⟩
    · exact fun word hmem => side.isPathWord word (List.mem_append_left _ hmem)
    · simpa [List.filterMap_cons, Item.path?] using side.path
    · simpa [List.filterMap_cons, Item.format?] using side.format
    · rw [setNoColor_eq_ok_iff]
      exact ⟨rfl, by rw [← hcount.1]⟩
  · rintro ⟨options, side, hset⟩
    obtain ⟨hnone, rfl⟩ := setNoColor_eq_ok_iff.mp hset
    have hnoColor := side.noColor
    rw [hnone] at hnoColor
    refine ⟨?_, ?_, ?_, ?_⟩
    · simpa using side.isPathWord
    · simpa [List.filterMap_cons, Item.path?] using side.path
    · simpa [List.filterMap_cons, Item.format?] using side.format
    · rw [List.count_append, hnoColor]
      rfl

end Side

/-! ### Sentences -/

/-- Two dashes may close a command line that has its path. -/
inductive Closing : List String → Prop where
  | none : Closing []
  | dashes : Closing ["--"]

/-- The command lines that make sense, with what they ask for. -/
inductive Sentence : List String → Request → Prop where
  | plain {items : List Item} {path : String} {options : Options} {closing : List String}
      (side : Side items (some path) options) (closes : Closing closing) :
      Sentence (written items ++ closing)
        (.inspect {
          path
          scope := .all
          format := options.format?.getD .text
          noColor := options.noColor })
  | named {items others : List Item} {path : String} {scope : Scope} {before after : Options}
      {closing : List String} (side : Side items (some path) before)
      (other : Side others none after) (closes : Closing closing) :
      Sentence (written items ++ scope.name :: (written others ++ closing))
        (.inspect {
          path
          scope
          format := (after.format? <|> before.format?).getD .text
          noColor := before.noColor || after.noColor })
  /-- Behind two dashes any word can be the path. -/
  | dashed {items : List Item} {path : String} {options : Options}
      (side : Side items none options) (hpath : path ≠ "") :
      Sentence (written items ++ ["--", path])
        (.inspect {
          path
          scope := .all
          format := options.format?.getD .text
          noColor := options.noColor })
  /-- What follows the version option is not looked at. -/
  | version {items : List Item} {path? : Option String} {options : Options} {word : String}
      {rest : List String} (side : Side items path? options) (hword : AsksVersion word) :
      Sentence (written items ++ word :: rest) .version

section Scanner

variable {path? : Option String} {path text value : String} {scope : Scope}
  {options before after : Options} {items others : List Item} {rest words : List String}
  {request : Request}

lemma finish_some :
    finish (some path) options =
      .ok (.inspect {
        path
        scope := .all
        format := options.format?.getD .text
        noColor := options.noColor }) := by
  simp [finish, Request.ofParts]

lemma scan_format_words {found : Options} {format : Format} (joined : Bool)
    (h : options.setFormat format.name = .ok found) :
    scan path? options ((Item.format format joined).words ++ rest) = scan path? found rest := by
  cases joined with
  | true =>
    rw [Item.words, List.singleton_append, scan_formatIs (ofText_joined format), h, ok_bind]
  | false =>
    rw [Item.words, List.cons_append, List.singleton_append, scan_format (by decide), h, ok_bind]

lemma scanAfter_format_words {found : Options} {format : Format} (joined : Bool)
    (h : after.setFormat format.name = .ok found) :
    scanAfter path scope before after ((Item.format format joined).words ++ rest) =
      scanAfter path scope before found rest := by
  cases joined with
  | true =>
    rw [Item.words, List.singleton_append, scanAfter_formatIs (ofText_joined format), h, ok_bind]
  | false =>
    rw [Item.words, List.cons_append, List.singleton_append, scanAfter_format (by decide), h,
      ok_bind]

/-- The state of the scanner after some items can be told from the items. -/
lemma scan_written (side : Side items path? options) (rest : List String) :
    scan none {} (written items ++ rest) = scan path? options rest := by
  induction items using List.reverseRecOn generalizing path? options rest with
  | nil =>
    obtain ⟨rfl, rfl⟩ := side_nil_iff.mp side
    rfl
  | append_singleton items item ih =>
    rw [written_append_singleton]
    cases item with
    | path word =>
      obtain ⟨hword, rfl, hside⟩ := side_append_path_iff.mp side
      have htake : takePath word = .ok word := takePath_eq_ok_iff.mpr ⟨hword.ne_empty, rfl⟩
      have hname := ofName?_eq_none_iff.mpr hword.ne_name
      rw [ih hside, Item.words, List.singleton_append, scan_path (ofText_of_bare hword.bare) hname,
        htake, ok_bind]
    | format format joined =>
      obtain ⟨options, side, hset⟩ := side_append_format_iff.mp side
      rw [ih side, scan_format_words joined hset]
    | noColor =>
      obtain ⟨options, side, hset⟩ := side_append_noColor_iff.mp side
      rw [ih side, Item.words, List.singleton_append, scan_noColor (by decide), hset, ok_bind]

/-- So can the state behind the scope, where no path is left to be given. -/
lemma scanAfter_written (side : Side items none after) (rest : List String) :
    scanAfter path scope before {} (written items ++ rest) =
      scanAfter path scope before after rest := by
  induction items using List.reverseRecOn generalizing after rest with
  | nil =>
    obtain ⟨-, rfl⟩ := side_nil_iff.mp side
    rfl
  | append_singleton items item ih =>
    rw [written_append_singleton]
    cases item with
    | path word => exact nomatch (side_append_path_iff.mp side).2.1
    | format format joined =>
      obtain ⟨options, side, hset⟩ := side_append_format_iff.mp side
      rw [ih side, scanAfter_format_words joined hset]
    | noColor =>
      obtain ⟨options, side, hset⟩ := side_append_noColor_iff.mp side
      rw [ih side, Item.words, List.singleton_append, scanAfter_noColor (by decide), hset, ok_bind]

/-- Every sentence is accepted for what it asks for. -/
lemma parse_of_sentence (h : Sentence words request) : parse words = .ok request := by
  cases h with
  | plain side closes =>
    rw [parse, scan_written side]
    cases closes with
    | none => exact finish_some
    | dashes =>
      rw [scan_separator (by decide)]
      exact finish_some
  | @named items others path scope before after closing side other closes =>
    rw [parse, scan_written side, scan_scope (ofText_scopeName scope) scope.ofName?_name,
      scanAfter_written other]
    cases closes with
    | none => rfl
    | dashes => rfl
  | dashed side hpath =>
    rw [parse, scan_written side, scan_separator (by decide), scanBare,
      takePath_eq_ok_iff.mpr ⟨hpath, rfl⟩]
    exact finish_some
  | version side hword =>
    rw [parse, scan_written side, scan_version (ofText_of_asksVersion hword)]

/-- A format that is taken is one more item, whichever way it is written. -/
lemma exists_of_setFormat {found : Options} (side : Side items path? options)
    (h : options.setFormat value = .ok found) (joined : Bool) :
    ∃ format : Format, value = format.name ∧
      Side (items ++ [.format format joined]) path? found := by
  obtain ⟨format, hvalue, -, -⟩ := setFormat_eq_ok_iff.mp h
  rw [hvalue] at h
  exact ⟨format, hvalue, side_append_format_iff.mpr ⟨options, side, h⟩⟩

/-- What the scanner accepts behind the scope are items and what may close them. -/
lemma exists_of_scanAfter (other : Side others none after)
    (h : scanAfter path scope before after words = .ok request) :
    ∃ others' after' closing, Side others' none after' ∧ Closing closing ∧
      written others ++ words = written others' ++ closing ∧
      request = .ofParts path scope before after' := by
  fun_induction scanAfter path scope before after words generalizing others with
  | case1 after => exact ⟨others, after, [], other, .none, rfl, (Except.ok.inj h).symm⟩
  | case2 after text hword =>
    cases eq_of_ofText_eq_separator hword
    exact ⟨others, after, ["--"], other, .dashes, rfl, (Except.ok.inj h).symm⟩
  | case3 | case6 | case8 | case9 | case10 => cases h
  | case4 after text rest hword ih =>
    obtain ⟨found, hset, hnext⟩ := exists_of_bind_eq_ok h
    have hother := side_append_noColor_iff.mpr ⟨after, other, hset⟩
    rw [written_noColor hword]
    exact ih found hother hnext
  | case5 after text rest value hword ih =>
    obtain ⟨found, hset, hnext⟩ := exists_of_bind_eq_ok h
    obtain ⟨format, rfl, hother⟩ := exists_of_setFormat other hset true
    rw [written_formatIs hword]
    exact ih found hother hnext
  | case7 after text hword value rest ih =>
    obtain ⟨found, hset, hnext⟩ := exists_of_bind_eq_ok h
    obtain ⟨format, rfl, hother⟩ := exists_of_setFormat other hset false
    rw [written_format hword]
    exact ih found hother hnext

lemma sentence_of_scanBare (side : Side items path? options)
    (h : scanBare path? options words = .ok request) :
    Sentence (written items ++ "--" :: words) request := by
  fun_cases scanBare path? options words with
  | case1 =>
    cases path? with
    | none => cases h
    | some path =>
      rw [scanBare, finish_some] at h
      cases h
      exact .plain side .dashes
  | case2 word =>
    obtain ⟨path, htake, hfinish⟩ := exists_of_bind_eq_ok h
    obtain ⟨hempty, rfl⟩ := takePath_eq_ok_iff.mp htake
    rw [finish_some] at hfinish
    cases hfinish
    exact .dashed side hempty
  | case3 | case4 => cases h

/-- What the scanner accepts after some items is a sentence that begins with them. -/
lemma sentence_of_scan (side : Side items path? options)
    (h : scan path? options words = .ok request) : Sentence (written items ++ words) request := by
  fun_induction scan path? options words generalizing items with
  | case1 path? options =>
    cases path? with
    | none => cases h
    | some path =>
      rw [finish_some] at h
      cases h
      exact .plain side .none
  | case2 path? options text rest hword =>
    cases eq_of_ofText_eq_separator hword
    exact sentence_of_scanBare side h
  | case3 path? options text rest hword =>
    cases h
    exact .version side (spelled_of_ofText hword)
  | case4 path? options text rest hword ih =>
    obtain ⟨found, hset, hnext⟩ := exists_of_bind_eq_ok h
    have hside := side_append_noColor_iff.mpr ⟨options, side, hset⟩
    rw [written_noColor hword]
    exact ih found hside hnext
  | case5 path? options text rest value hword ih =>
    obtain ⟨found, hset, hnext⟩ := exists_of_bind_eq_ok h
    obtain ⟨format, rfl, hside⟩ := exists_of_setFormat side hset true
    rw [written_formatIs hword]
    exact ih found hside hnext
  | case7 path? options text hword value rest ih =>
    obtain ⟨found, hset, hnext⟩ := exists_of_bind_eq_ok h
    obtain ⟨format, rfl, hside⟩ := exists_of_setFormat side hset false
    rw [written_format hword]
    exact ih found hside hnext
  | case9 options text rest hword hname ih =>
    obtain ⟨path, htake, hnext⟩ := exists_of_bind_eq_ok h
    obtain ⟨hempty, rfl⟩ := takePath_eq_ok_iff.mp htake
    have hpath : IsPathWord path :=
      ⟨hempty, ofName?_eq_none_iff.mp hname, spelled_of_ofText hword⟩
    have hside := side_append_path_iff.mpr ⟨hpath, rfl, side⟩
    rw [written_path]
    exact ih path hside hnext
  | case11 options text rest hword path scope hname =>
    obtain ⟨others, after, closing, other, closes, hrest, rfl⟩ :=
      exists_of_scanAfter (side_nil_iff.mpr ⟨rfl, rfl⟩) h
    cases ofName?_eq_some_iff.mp hname
    rw [show rest = written others ++ closing from hrest]
    exact .named side other closes
  | case6 | case8 | case10 | case12 => cases h

end Scanner

/-- A command line asks for one thing only. -/
theorem Sentence.unique {words : List String} {request request' : Request}
    (h : Sentence words request) (h' : Sentence words request') : request = request' := by
  have hparse := parse_of_sentence h
  rw [parse_of_sentence h'] at hparse
  exact (Except.ok.inj hparse).symm

/-- The scanner accepts the sentences, each for what it asks for, and nothing else. -/
theorem parse_eq_ok_iff_sentence {words : List String} {request : Request} :
    parse words = .ok request ↔ Sentence words request :=
  ⟨sentence_of_scan (side_nil_iff.mpr ⟨rfl, rfl⟩), parse_of_sentence⟩

end ElfInspect.CommandLine
