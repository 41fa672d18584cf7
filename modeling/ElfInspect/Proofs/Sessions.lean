import ElfInspect.Proofs.Serving
import ElfInspect.Session

/-!
# Queries one after another

A source is asked many things in turn, and every query leaves the cursor of its reader
somewhere, the failed ones too. What the source serves is the invariant: no query changes it,
and an outcome shows nothing else. So each query of a sequence comes to what it would come to
as the first one, and neither the size of the chunks nor the history can be seen.
-/

namespace ElfInspect

open Inspection

/-- What is seen of an outcome. -/
def Outcome.account {α : Type} (outcome : Outcome α) : Account α :=
  ⟨outcome.result, outcome.log⟩

/-- A reader that never fails, and gives something as long as it has something to give. -/
structure Reader.Steady (reader : Reader) : Prop where
  progress : reader.chunk? ≠ some 0
  readFault : reader.readFault? = none
  seekFault : reader.seekFault? = none

/-- What a file replies to a query. -/
def File.reply (file : File) : Query → Account Reply
  | .readAt part extent => Reply.bytes <$> file.read part extent
  | .readHeader => Reply.header <$> file.header
  | .checkTables header fileLength => do
    Account.ofExcept (header.checkTables fileLength)
    return .passed
  | .readSections header => Reply.sections <$> file.sections header
  | .loadNames header sections => Reply.names <$> file.names header sections

namespace Query

/-- The outcomes of queries to one source, each put to the source that the one before it left. -/
def performAll : List Query → Source → List (Outcome Reply)
  | [], _ => []
  | query :: queries, source =>
    let outcome := query.perform source
    outcome :: performAll queries outcome.source

variable {file : File} {source : Source}

lemma yields_perform (query : Query) : query.perform.Yields file (file.reply query) := by
  cases query with
  | readAt part extent => exact (yields_readAt part extent).bind fun _ => yields_pure _
  | readHeader => exact yields_readHeader.bind fun _ => yields_pure _
  | checkTables header fileLength => exact (yields_ofExcept _).bind fun _ => yields_pure _
  | readSections header => exact (yields_readSections header).bind fun _ => yields_pure _
  | loadNames header sections =>
    exact (yields_loadNames header sections).bind fun _ => yields_pure _

/-- One query: its outcome is the reply of the file, and the file is served on. -/
theorem perform_of_serves (h : source.Serves file) (query : Query) :
    (query.perform source).account = file.reply query ∧
      (query.perform source).source.Serves file := by
  obtain ⟨rest, hrest, hserves⟩ := query.yields_perform source h
  rw [hrest]
  exact ⟨rfl, hserves⟩

/-- A whole sequence, by induction on it with what is served as the invariant. -/
theorem performAll_of_serves (h : source.Serves file) (queries : List Query) :
    (performAll queries source).map Outcome.account = queries.map file.reply ∧
      ∀ outcome ∈ performAll queries source, outcome.source.Serves file := by
  induction queries generalizing source with
  | nil => exact ⟨rfl, List.forall_mem_nil _⟩
  | cons query queries ih =>
    obtain ⟨houtcome, hserves⟩ := query.perform_of_serves h
    obtain ⟨houtcomes, hall⟩ := ih hserves
    constructor
    · rw [performAll, List.map_cons, List.map_cons, houtcome, houtcomes]
    · exact List.forall_mem_cons.mpr ⟨hserves, hall⟩

end Query

namespace Session

/-- Sessions that have kept the same and whose sources serve the same file. -/
structure Alike (first second : Session) (file : File) : Prop where
  header? : first.header? = second.header?
  sections : first.sections = second.sections
  names : first.names = second.names
  serves : first.source.Serves file
  serves' : second.source.Serves file

/-- What is seen of a turn. -/
def Turn.seen (turn : Turn) : Answer × List Event :=
  (turn.answer, turn.log)

variable {first second : Session} {file : File}

lemma Alike.keep (h : Alike first second file) (reply : Reply) :
    Alike (first.keep reply) (second.keep reply) file := by
  obtain ⟨hheader, hsections, hnames, hserves, hserves'⟩ := h
  cases reply with
  | bytes => exact ⟨hheader, hsections, hnames, hserves, hserves'⟩
  | header => exact ⟨rfl, hsections, hnames, hserves, hserves'⟩
  | passed => exact ⟨hheader, hsections, hnames, hserves, hserves'⟩
  | sections => exact ⟨hheader, rfl, hnames, hserves, hserves'⟩
  | names => exact ⟨hheader, hsections, rfl, hserves, hserves'⟩

lemma Alike.ask (h : Alike first second file) (query : Query) :
    (first.ask query).seen = (second.ask query).seen ∧
      Alike (first.ask query).session (second.ask query).session file := by
  obtain ⟨rest, hrest, hserves⟩ := query.yields_perform first.source h.serves
  obtain ⟨rest', hrest', hserves'⟩ := query.yields_perform second.source h.serves'
  have hmoved : Alike { first with source := rest } { second with source := rest' } file :=
    ⟨h.header?, h.sections, h.names, hserves, hserves'⟩
  unfold Session.ask
  rw [hrest, hrest']
  cases (file.reply query).result with
  | ok reply => exact ⟨rfl, hmoved.keep reply⟩
  | error fault => exact ⟨rfl, hmoved⟩

lemma Alike.askWithHeader (h : Alike first second file) (query : FileHeader → Query) :
    (first.askWithHeader query).seen = (second.askWithHeader query).seen ∧
      Alike (first.askWithHeader query).session (second.askWithHeader query).session file := by
  unfold Session.askWithHeader
  rw [h.header?]
  cases second.header? with
  | none => exact ⟨rfl, h⟩
  | some header => exact h.ask (query header)

theorem Alike.step (h : Alike first second file) (step : Step) :
    (first.step step).seen = (second.step step).seen ∧
      Alike (first.step step).session (second.step step).session file := by
  have hlength : first.source.length = second.source.length := by
    rw [h.serves.length, h.serves'.length]
  cases step with
  | length =>
    refine ⟨?_, h⟩
    simp only [Session.step, Turn.seen, hlength]
  | readAt label extent => exact h.ask _
  | readHeader => exact h.ask _
  | setHeader header => exact ⟨rfl, h.keep (.header header)⟩
  | checkTables fileLength? =>
    unfold Session.step
    rw [hlength]
    exact h.askWithHeader _
  | readSections => exact h.askWithHeader _
  | setSections sections => exact ⟨rfl, h.keep (.sections sections)⟩
  | sectionAt index =>
    refine ⟨?_, h⟩
    simp only [Session.step, Turn.seen, h.sections]
  | linked index =>
    refine ⟨?_, h⟩
    simp only [Session.step, Turn.seen, h.sections]
  | loadNames =>
    unfold Session.step
    rw [h.sections]
    exact h.askWithHeader _
  | resolve offset =>
    refine ⟨?_, h⟩
    simp only [Session.step, Turn.seen, h.names]
  | summary index =>
    simp only [Session.step, h.sections, h.names]
    cases second.sections[index]? with
    | none => exact ⟨rfl, h⟩
    | some sh => exact ⟨rfl, h⟩

lemma turnsFrom_eq (session : Session) (turns : List Turn) (steps : List Step) :
    session.turnsFrom turns steps = turns.reverse ++ session.turns steps := by
  unfold Session.turns
  induction steps generalizing session turns with
  | nil => simp [turnsFrom]
  | cons step steps ih =>
    simp only [turnsFrom]
    rw [ih (session.step step).session (session.step step :: turns),
      ih (session.step step).session [session.step step]]
    simp

lemma turns_cons (session : Session) (step : Step) (steps : List Step) :
    session.turns (step :: steps) =
      session.step step :: (session.step step).session.turns steps := by
  rw [Session.turns, turnsFrom, turnsFrom_eq]
  rfl

theorem Alike.turns (h : Alike first second file) (steps : List Step) :
    (first.turns steps).map Turn.seen = (second.turns steps).map Turn.seen := by
  induction steps generalizing first second with
  | nil => rfl
  | cons step steps ih =>
    obtain ⟨hseen, hnext⟩ := h.step step
    rw [turns_cons, turns_cons, List.map_cons, List.map_cons, hseen, ih hnext]

end Session

lemma Reader.exists_serves {reader : Reader} (h : reader.Steady) :
    ∃ source, Source.ofReader reader = .ok source ∧
      source.Serves ⟨reader.content, reader.reportedLength⟩ := by
  have hstarved : ¬reader.Starved := h.progress
  exact ⟨_, Source.ofReader_of_eq_none h.seekFault,
    ⟨h.readFault, h.seekFault, if_neg hstarved, rfl⟩⟩

/-- Whatever a source was asked before, every query comes to what it comes to on a source that
has just been taken up, with chunks of the same size, of another or of none at all, and the recorded
length stays. So do the turns of a session, whose queries are made from what it has kept. -/
theorem Query.performAll_eq_fresh {reader : Reader} (h : reader.Steady) :
    ∃ source, Source.ofReader reader = .ok source ∧
      (∀ queries, ∀ outcome ∈ performAll queries source,
        outcome.source.length = reader.reportedLength) ∧
      ∀ other : Reader, other.Steady → other.content = reader.content →
        other.reportedLength = reader.reportedLength →
        ∃ fresh, Source.ofReader other = .ok fresh ∧
          (∀ queries, (performAll queries source).map Outcome.account =
            (performAll queries fresh).map Outcome.account) ∧
          (∀ queries, (performAll queries source).map Outcome.account =
            queries.map fun query => (query.perform fresh).account) ∧
          ∀ steps, (Session.turns { source } steps).map Session.Turn.seen =
            (Session.turns { source := fresh } steps).map Session.Turn.seen := by
  obtain ⟨source, hsource, hserves⟩ := Reader.exists_serves h
  refine ⟨source, hsource, ?_, ?_⟩
  · intro queries outcome houtcome
    exact ((performAll_of_serves hserves queries).2 outcome houtcome).length
  · intro other hother hcontent hlength
    obtain ⟨fresh, hofReader, hfresh⟩ := Reader.exists_serves hother
    rw [hcontent, hlength] at hfresh
    refine ⟨fresh, hofReader, ?_, ?_, ?_⟩
    · intro queries
      rw [(performAll_of_serves hserves queries).1, (performAll_of_serves hfresh queries).1]
    · intro queries
      rw [(performAll_of_serves hserves queries).1]
      exact List.map_congr_left fun query _ => (query.perform_of_serves hfresh).1.symm
    · intro steps
      have halike : Session.Alike { source } { source := fresh } _ :=
        ⟨rfl, rfl, rfl, hserves, hfresh⟩
      exact halike.turns steps

/-- A read that runs into the end of the bytes, a header that is past the recorded length, and a
read that finds its bytes all the same. -/
theorem Query.performAll_short :
    let reader : Reader := { content := [1, 2, 3, 4, 5], reportedLength := 9, chunk? := some 2 }
    let queries := [.readAt .nameTable ⟨3, 4⟩, .readHeader, .readAt .nameTable ⟨1, 3⟩]
    reader.Steady ∧ ∃ source fresh, Source.ofReader reader = .ok source ∧
      Source.ofReader { reader with chunk? := none } = .ok fresh ∧
      (performAll queries source).map Outcome.account =
        (queries.map fun query => (query.perform fresh).account) ∧
      (performAll queries source).map Outcome.account = [
        ⟨.error (.format (.truncated .nameTable 3 4 2)), []⟩,
        ⟨.error (.format (.truncated .fileHeader 0 64 9)), []⟩,
        ⟨.ok (.bytes [2, 3, 4]), []⟩] := by
  intro reader queries
  have hsteady : reader.Steady := ⟨nofun, rfl, rfl⟩
  obtain ⟨source, hsource, -, hothers⟩ := performAll_eq_fresh hsteady
  obtain ⟨fresh, hfresh, -, houtcomes, -⟩ :=
    hothers { reader with chunk? := none } ⟨nofun, rfl, rfl⟩ rfl rfl
  refine ⟨hsteady, source, fresh, hsource, hfresh, houtcomes queries, ?_⟩
  obtain ⟨source', hsource', hserves⟩ := Reader.exists_serves hsteady
  have heq : source = source' := Except.ok.inj (hsource.symm.trans hsource')
  rw [heq, (performAll_of_serves hserves queries).1]
  change List.map (File.reply ⟨[1, 2, 3, 4, 5], 9⟩)
    [.readAt .nameTable ⟨3, 4⟩, .readHeader, .readAt .nameTable ⟨1, 3⟩] = _
  rfl

end ElfInspect
