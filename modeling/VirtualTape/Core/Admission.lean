import VirtualTape.Core.Tape
import VirtualTape.Core.Drive

/-!
# Admission of writes

A WRITE is checked against the capacity before it is queued. The bytes of queued writes are an
unsigned counter of 32 bits, the size of the new write is a product of 32 bits, and the sum of both
with the bytes in use has 64 bits. It is compared with the capacity of the tape.
-/

namespace VirtualTape

end VirtualTape
