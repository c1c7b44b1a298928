import Chip8.Memory
import Chip8.Refusal

/-!
# Programs

A program is an image that is known to fit in memory, under a name, with the digest by which two
programs are told apart.
-/

namespace Chip8

/-- A program that can be run. -/
structure Program where
  name : String
  image : List UInt8
  digest : Digest
  image_ne_nil : image ≠ []
  image_fits : image.length ≤ maxProgramSize
  digest_eq : digest = Digest.ofBytes image

namespace Program

/-- Accept an image unless it is empty or too large. -/
def load (name : String) (image : List UInt8) : Except Refusal Program :=
  if empty : image = [] then .error (.emptyProgram name)
  else if fits : image.length ≤ maxProgramSize then
    .ok ⟨name, image, Digest.ofBytes image, empty, fits, rfl⟩
  else .error (.programTooLarge name image.length maxProgramSize)

end Program

end Chip8
