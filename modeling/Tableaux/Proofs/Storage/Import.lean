import Tableaux.Proofs.Reading.Outcome
import Tableaux.Storage.Import

/-!
# What is imported

A file is imported if its notation is given or known from its extension, its content is
text, and the text is read. Otherwise the first of these that fails says why.
-/
namespace Tableaux.Storage

def Files.Holds (files : Files) (path : Path) (text : String) : Prop :=
  ∃ content, files path = .ok content ∧ String.fromUTF8? content = some text

inductive Files.Unreadable (files : Files) (path : Path) : FileError → Prop
  | refused {e : FileError} : files path = .error e → Unreadable files path e
  | binary {content : ByteArray} : files path = .ok content → String.fromUTF8? content = none →
      Unreadable files path .notText

theorem readText_ok_iff {files : Files} {path : Path} {text : String} :
    files.readText path = .ok text ↔ files.Holds path text := by
  unfold Files.readText Files.Holds
  cases hfile : files path with
  | error e => simp [bind, Except.bind]
  | ok content =>
    cases htext : String.fromUTF8? content with
    | none => simp [bind, Except.bind, htext, throw, throwThe, MonadExceptOf.throw]
    | some decoded => simp [bind, Except.bind, htext, pure, Except.pure]

theorem readText_error_iff {files : Files} {path : Path} {e : FileError} :
    files.readText path = .error e ↔ files.Unreadable path e := by
  unfold Files.readText
  constructor
  · intro h
    rcases Reading.bind_error_iff.mp h with hfile | ⟨content, hfile, h⟩
    · exact .refused hfile
    · cases htext : String.fromUTF8? content with
      | none =>
        rw [htext] at h
        cases h
        exact .binary hfile htext
      | some decoded =>
        rw [htext] at h
        cases h
  · rintro (hfile | ⟨hfile, htext⟩)
    · exact Reading.bind_error_iff.mpr (Or.inl hfile)
    · apply Reading.bind_error_iff.mpr (Or.inr ⟨_, hfile, _⟩)
      rw [htext]
      rfl

end Tableaux.Storage

namespace Tableaux

open Reading (ReadError Recorded)
open Storage (Path Files FileError readText_ok_iff readText_error_iff)

/-- The notation of a file: the one that is given, or the one that its extension stands for. -/
inductive Written (path : Path) : Option Format → Format → Prop
  | given (format : Format) : Written path (some format) format
  | extension {bytes : List UInt8} {chars : List Char} {format : Format} :
      path.extension? = some bytes → Text.chars? bytes = some chars →
      Format.ofExtension? (String.ofList chars) = some format → Written path none format

inductive Unwritten (path : Path) : ImportError → Prop
  | missing : path.extension? = none → Unwritten path (.noExtension path)
  | undecodable {bytes : List UInt8} : path.extension? = some bytes → Text.chars? bytes = none →
      Unwritten path (.unreadableExtension bytes)
  | unknown {bytes : List UInt8} {chars : List Char} :
      path.extension? = some bytes → Text.chars? bytes = some chars →
      Format.ofExtension? (String.ofList chars) = none →
      Unwritten path (.unknownExtension (String.ofList chars) path)

theorem formatOfPath_cases (path : Path) :
    (∃ format, formatOfPath path = .ok format ∧ Written path none format) ∨
      ∃ e, formatOfPath path = .error e ∧ Unwritten path e := by
  unfold formatOfPath
  cases hbytes : path.extension? with
  | none => exact Or.inr ⟨_, rfl, .missing hbytes⟩
  | some bytes =>
    cases hchars : Text.chars? bytes with
    | none => exact Or.inr ⟨_, by simp [hchars], .undecodable hbytes hchars⟩
    | some chars =>
      cases hformat : Format.ofExtension? (String.ofList chars) with
      | none => exact Or.inr ⟨_, by simp [hchars, hformat], .unknown hbytes hchars hformat⟩
      | some format =>
        exact Or.inl ⟨format, by simp [hchars, hformat], .extension hbytes hchars hformat⟩

theorem chooseFormat_ok_iff {given : Option Format} {path : Path} {format : Format} :
    chooseFormat given path = .ok format ↔ Written path given format := by
  constructor
  · intro h
    cases given with
    | some known =>
      cases h
      exact .given format
    | none =>
      rcases formatOfPath_cases path with ⟨found, hfound, hw⟩ | ⟨e, he, -⟩
      · cases hfound.symm.trans h
        exact hw
      · cases he.symm.trans h
  · rintro (_ | ⟨hbytes, hchars, hformat⟩)
    · rfl
    · simp [chooseFormat, formatOfPath, hbytes, hchars, hformat]

theorem chooseFormat_error_iff {given : Option Format} {path : Path} {e : ImportError} :
    chooseFormat given path = .error e ↔ given = none ∧ Unwritten path e := by
  constructor
  · intro h
    cases given with
    | some known => cases h
    | none =>
      rcases formatOfPath_cases path with ⟨found, hfound, -⟩ | ⟨reason, hreason, hu⟩
      · cases hfound.symm.trans h
      · cases hreason.symm.trans h
        exact ⟨rfl, hu⟩
  · rintro ⟨rfl, hbytes | ⟨hbytes, hchars⟩ | ⟨hbytes, hchars, hformat⟩⟩
    · simp [chooseFormat, formatOfPath, hbytes]
    · simp [chooseFormat, formatOfPath, hbytes, hchars]
    · simp [chooseFormat, formatOfPath, hbytes, hchars, hformat]

/-- A file that is imported as a program. -/
def Imports (files : Files) (path : Path) (given : Option Format) (leniency : Leniency)
    (program : Program) : Prop :=
  ∃ format text, Written path given format ∧ files.Holds path text ∧
    (format.read leniency text).outcome = .ok program

inductive NotImported (files : Files) (path : Path) (given : Option Format) (leniency : Leniency) :
    ImportError → Prop
  | unwritten {e : ImportError} : given = none → Unwritten path e →
      NotImported files path given leniency e
  | file {format : Format} {e : FileError} : Written path given format →
      files.Unreadable path e → NotImported files path given leniency (.file e)
  | text {format : Format} {text : String} {e : ReadError} : Written path given format →
      files.Holds path text → (format.read leniency text).outcome = .error e →
      NotImported files path given leniency (.read e)

variable {files : Files} {path : Path} {given : Option Format} {leniency : Leniency}

theorem outcome_importProgram :
    (importProgram files path given leniency).outcome = (do
      let format ← chooseFormat given path
      let text ← (files.readText path).mapError .file
      (format.read leniency text).outcome.mapError .read) := by
  simp only [importProgram, Recorded.outcome_bind]
  rfl

theorem importProgram_ok_iff {program : Program} :
    (importProgram files path given leniency).outcome = .ok program ↔
      Imports files path given leniency program := by
  rw [outcome_importProgram]
  simp only [Reading.bind_ok_iff, Reading.mapError_ok_iff, chooseFormat_ok_iff, readText_ok_iff]
  constructor
  · rintro ⟨format, hf, text, ht, hr⟩
    exact ⟨format, text, hf, ht, hr⟩
  · rintro ⟨format, text, hf, ht, hr⟩
    exact ⟨format, hf, text, ht, hr⟩

theorem importProgram_error_iff {e : ImportError} :
    (importProgram files path given leniency).outcome = .error e ↔
      NotImported files path given leniency e := by
  rw [outcome_importProgram]
  simp only [Reading.bind_error_iff, Reading.mapError_ok_iff, Reading.mapError_error_iff,
    chooseFormat_ok_iff, chooseFormat_error_iff, readText_ok_iff, readText_error_iff]
  constructor
  · rintro (⟨hg, hu⟩ | ⟨format, hf, ⟨reason, hreason, rfl⟩ | ⟨text, ht, reason, hr, rfl⟩⟩)
    · exact .unwritten hg hu
    · exact .file hf hreason
    · exact .text hf ht hr
  · rintro (⟨hg, hu⟩ | ⟨hf, hreason⟩ | ⟨hf, ht, hr⟩)
    · exact Or.inl ⟨hg, hu⟩
    · exact Or.inr ⟨_, hf, Or.inl ⟨_, hreason, rfl⟩⟩
    · exact Or.inr ⟨_, hf, Or.inr ⟨_, ht, _, hr, rfl⟩⟩

end Tableaux
