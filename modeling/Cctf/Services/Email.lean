import Mathlib.Data.Int.Notation
import Cctf.Library.Lines

/-!
# Mail

* `EmailError` — everything that can go wrong.
* `Stop` — how a call that does not return a value ends.
* `Email` — a message the catcher has caught.

Texts that are taken apart are lists of characters.
-/

namespace Cctf

/-- The errors; `reason` is the text of the error of the library below. -/
inductive EmailError where
  | connect (reason : String)
  | io (reason : String)
  | tls (reason : String)
  | invalidServerName (reason : String)
  | unexpectedEof
  | invalidResponse
  | rejected (code : UInt16) (phase : String)
  | startTlsUnsupported
  | authUnsupported
  | authFailed
  | authRequiresTls
  | messageTooLarge
  | alreadySecured
  deriving DecidableEq, Repr

/-- How a call ends that returns no value. -/
inductive Stop where
  /-- It returns an error. -/
  | err (e : EmailError)
  /-- A string was cut inside a character. -/
  | panic
  /-- A loop has more rounds than it was given. -/
  | fuel
  deriving DecidableEq, Repr

/-- A message as the catcher keeps it. -/
structure Email where
  id : List Char
  «from» : List Char
  «to» : List Char
  subject : List Char
  body : List Char
  timestamp : ℤ
  deriving DecidableEq, Repr

/-- The end of a line. -/
def crlf : List Char := ['\r', '\n']

/-- Lines that end in CRLF, one after the other, are those lines. -/
theorem complete_crlf {lines : List (List Char)} (h : ∀ line ∈ lines, '\n' ∉ line) :
    Lines.complete '\n' (lines.flatMap (· ++ crlf)) = lines.map (· ++ crlf) := by
  have htext : lines.flatMap (· ++ crlf) = (lines.map (· ++ ['\r'])).flatMap (· ++ ['\n']) := by
    simp [List.flatMap_map, crlf]
  have hlines : ∀ line ∈ lines.map (· ++ ['\r']), '\n' ∉ line := by
    intro line hline
    obtain ⟨line', hline', rfl⟩ := List.mem_map.1 hline
    simp [h line' hline']
  rw [htext, Lines.complete_flatMap hlines]
  simp [crlf]

end Cctf
