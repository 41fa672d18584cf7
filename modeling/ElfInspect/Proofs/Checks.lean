import ElfInspect.Proofs.Serving

/-!
# The checks of an analysis

An analysis is a list of checks on what stands where in the file, made in a fixed order, each
with the defect that it reports. The list is written down here in natural numbers, without
readers and without words that wrap, and an analysis of a file that is served in full is shown
to make these checks and no others.
-/

namespace ElfInspect

/-- A condition on a file, and the defect of a file in which it fails. -/
structure Check where
  holds : Bool
  defect : FormatError

namespace Check

/-- Makes the checks in their order and stops at the first one that fails. -/
def run : List Check → Except Fault Unit
  | [] => .ok ()
  | check :: checks => if check.holds then run checks else .error (.format check.defect)

/-- The check that `size` bytes from `offset` on lie in a file of `length` bytes. -/
def fits (part : Part) (offset size length : Nat) : Check where
  holds := offset + size ≤ length
  defect := .truncated part offset.toUInt64 size.toUInt64 (length - offset).toUInt64

/-- A check that is left out in some case. -/
def exceptIf (check : Check) (exempt : Bool) : Check where
  holds := exempt || check.holds
  defect := check.defect

lemma run_nil : run [] = .ok () := rfl

lemma run_cons_of_holds {check : Check} (h : check.holds = true) (checks : List Check) :
    run (check :: checks) = run checks := by
  rw [run, if_pos h]

lemma run_cons_of_not_holds {check : Check} (h : check.holds = false) (checks : List Check) :
    run (check :: checks) = .error (.format check.defect) := by
  rw [run, h]
  rfl

lemma run_append (checks more : List Check) :
    run (checks ++ more) = run checks >>= fun _ => run more := by
  induction checks with
  | nil => rfl
  | cons check checks ih =>
    rw [List.cons_append]
    cases h : check.holds with
    | true => rw [run_cons_of_holds h, run_cons_of_holds h, ih]
    | false =>
      rw [run_cons_of_not_holds h, run_cons_of_not_holds h]
      rfl

theorem run_eq_ok_iff {checks : List Check} :
    run checks = .ok () ↔ ∀ check ∈ checks, check.holds = true := by
  induction checks with
  | nil => simp [run]
  | cons check checks ih =>
    cases h : check.holds with
    | true => rw [run_cons_of_holds h, ih, List.forall_mem_cons, h, eq_self, true_and]
    | false =>
      rw [run_cons_of_not_holds h, List.forall_mem_cons, h]
      simp

theorem run_eq_error_iff {checks : List Check} {fault : Fault} :
    run checks = .error fault ↔ ∃ before check after, checks = before ++ check :: after ∧
      (∀ earlier ∈ before, earlier.holds = true) ∧ check.holds = false ∧
      fault = .format check.defect := by
  constructor
  · intro h
    induction checks with
    | nil => cases h
    | cons check checks ih =>
      cases hholds : check.holds with
      | true =>
        rw [run_cons_of_holds hholds] at h
        obtain ⟨before, failing, after, rfl, hbefore, hfailing⟩ := ih h
        refine ⟨check :: before, failing, after, rfl, ?_, hfailing⟩
        exact List.forall_mem_cons.mpr ⟨hholds, hbefore⟩
      | false =>
        rw [run_cons_of_not_holds hholds] at h
        cases h
        exact ⟨[], check, checks, rfl, List.forall_mem_nil _, hholds, rfl⟩
  · rintro ⟨before, check, after, rfl, hbefore, hholds, rfl⟩
    rw [run_append, run_eq_ok_iff.mpr hbefore]
    exact run_cons_of_not_holds hholds after

end Check

/-! ### The checks in their order -/

namespace Layout

def magic (content : Bytes) : Vector UInt8 4 :=
  #v[content.getD 0 0, content.getD 1 0, content.getD 2 0, content.getD 3 0]

def identChecks (content : Bytes) : List Check := [
  { holds := (magic content).toList = [0x7f, 0x45, 0x4c, 0x46]
    defect := .badMagic (magic content) },
  { holds := content.getD 4 0 = 2
    defect := .unsupportedClass (content.getD 4 0) },
  { holds := content.getD 5 0 = 1 ∨ content.getD 5 0 = 2
    defect := .unsupportedEncoding (content.getD 5 0) }]

def extentChecks (content : Bytes) : List Check := [
  (Check.fits .programHeaderTable (header content).phoff.toNat
    ((header content).phnum.toNat * (header content).phentsize.toNat) content.length).exceptIf
      ((header content).phnum = 0),
  (Check.fits .sectionHeaderTable (header content).shoff.toNat
    ((header content).shnum.toNat * (header content).shentsize.toNat) content.length).exceptIf
      ((header content).shoff = 0)]

def headerChecks (content : Bytes) : List Check :=
  .fits .fileHeader 0 64 content.length :: (identChecks content ++ extentChecks content)

/-- That there is a table at all is found out when its name table is looked up. -/
def tableChecks (content : Bytes) : List Check := [
  { holds := (header content).shnum ≠ 0
    defect := .badReference .nameTable (header content).shstrndx.toNat 0 },
  { holds := (header content).shentsize = 64
    defect := .badEntrySize 64 (header content).shentsize },
  (Check.fits .sectionHeaderTable 0 (64 * (header content).shnum.toNat)
    content.length).exceptIf ((header content).shoff ≠ 0)]

def recordCheck (content : Bytes) (index : Nat) : Check :=
  (Check.fits (.sectionAt index) (record content index).offset.toNat
    (record content index).size.toNat content.length).exceptIf (record content index).isNobits

def recordChecks (content : Bytes) : List Check :=
  (List.range (header content).shnum.toNat).map (recordCheck content)

def nameChecks (content : Bytes) : List Check := [
  { holds := (header content).shstrndx.toNat < (header content).shnum.toNat
    defect := .badReference .nameTable (header content).shstrndx.toNat
      (header content).shnum.toNat },
  .fits .nameTable (nameRecord content).offset.toNat (nameRecord content).size.toNat
    content.length]

/-- All checks of an analysis. -/
def checks (content : Bytes) : List Check :=
  headerChecks content ++ tableChecks content ++ recordChecks content ++ nameChecks content

/-- The name table as it stands in the file. -/
def nameTable (content : Bytes) : NameTable where
  bytes := slice content (nameRecord content).offset.toNat (nameRecord content).size.toNat

/-- What an analysis says of a file that passes all checks. -/
def analysis (content : Bytes) (path : String) : Analysis where
  path
  header := header content
  sectionHeaders := records content
  sections := SectionSummary.ofHeaders (nameTable content) (records content)

end Layout

end ElfInspect
