import ElfInspect.CommandLine.FileSystem
import ElfInspect.Proofs.OneLine
import ElfInspect.Proofs.PositionedRead

/-!
# Messages

The message of a defect takes one line if the name of its part does. What a file system says is its
own affair: that it takes one line is asked of it.
-/

namespace ElfInspect

/-- The part that a defect is reported of. -/
def FormatError.part? : FormatError → Option Part
  | truncated part .. | badReference part .. => some part
  | _ => none

lemma Part.oneLine_describe_sectionAt (index : Nat) : OneLine (sectionAt index).describe := by
  unfold describe
  simp only [oneLine_append, Numeral.oneLine_decimal, and_true]
  simp [OneLine]

/-- Only the name of a part can bring a break into a message. -/
lemma FormatError.oneLine_message {error : FormatError}
    (h : ∀ part ∈ error.part?, OneLine part.describe) : OneLine error.message := by
  cases error with
  | badMagic found =>
    unfold message
    simp only [oneLine_append, Numeral.oneLine_hexBytes, and_true]
    simp [OneLine]
  | truncated part offset expected actual =>
    have hpart := h part rfl
    unfold message
    simp only [oneLine_append, Numeral.oneLine_decimal, Numeral.oneLine_markedHex, hpart,
      true_and, and_true]
    simp [OneLine]
  | badReference part index count =>
    have hpart := h part rfl
    unfold message
    simp only [oneLine_append, Numeral.oneLine_decimal, hpart, true_and, and_true]
    simp [OneLine]
  | unsupportedClass | unsupportedEncoding | badEntrySize =>
    unfold message
    simp only [oneLine_append, Numeral.oneLine_decimal, and_true]
    simp [OneLine]

namespace CommandLine

/-- Whatever the system says of a file that it does not open, or cannot read on, takes one line. -/
structure FileSystem.SpeaksInLines (files : FileSystem) : Prop where
  opening {path : String} {error : IoError} (h : files.openFile path = .error error) :
    OneLine error.message
  reading {path : String} {reader : Reader} {error : IoError}
    (h : files.openFile path = .ok reader) (hraised : reader.Raises error) :
    OneLine error.message

namespace Directory

variable {directory : Directory}

lemma oneLine_walk {components : List (List Char)} {error : IoError}
    (h : directory.walk components = .error error) : OneLine error.message := by
  fun_induction walk directory components with
  | case2 _ _ ih | case3 _ _ ih | case4 _ _ ih => exact ih h
  | case7 => cases h
  | case1 | case5 | case6 | case8 =>
    cases h
    decide

lemma oneLine_openFile {path : String} {error : IoError}
    (h : directory.openFile path = .error error) : OneLine error.message := by
  unfold openFile at h
  split at h
  · cases h
    decide
  · split at h
    · cases h
      decide
    · split at h
      · exact oneLine_walk h
      · exact oneLine_walk h

lemma openFile_eq_error_of_fileSystem {path : String} {error : IoError}
    (h : directory.fileSystem.openFile path = .error error) :
    directory.openFile path = .error error := by
  change (directory.openFile path).map Reader.honest = _ at h
  cases hopen : directory.openFile path with
  | error _ =>
    cases hopen ▸ h
    rfl
  | ok _ => cases hopen ▸ h

lemma eq_honest_of_fileSystem {path : String} {reader : Reader}
    (h : directory.fileSystem.openFile path = .ok reader) :
    ∃ content, reader = .honest content := by
  change (directory.openFile path).map Reader.honest = _ at h
  cases hopen : directory.openFile path with
  | error _ => cases hopen ▸ h
  | ok content =>
    cases hopen ▸ h
    exact ⟨content, rfl⟩

/-- A directory is such a system. -/
theorem speaksInLines_fileSystem (directory : Directory) :
    directory.fileSystem.SpeaksInLines where
  opening h := oneLine_openFile (openFile_eq_error_of_fileSystem h)
  reading h hraised := by
    obtain ⟨content, rfl⟩ := eq_honest_of_fileSystem h
    rcases hraised with rfl | rfl
    · change OneLine IoError.seekFault.message
      decide
    · change OneLine IoError.readFault.message
      decide

end Directory

end CommandLine

end ElfInspect
