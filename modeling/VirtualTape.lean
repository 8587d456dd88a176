import VirtualTape.Verif.Admission
import VirtualTape.Verif.Barcode
import VirtualTape.Verif.BitmapScan
import VirtualTape.Verif.Check
import VirtualTape.Verif.ElementStatus
import VirtualTape.Verif.Exclusion
import VirtualTape.Verif.FailedMoves
import VirtualTape.Verif.FcAccess
import VirtualTape.Verif.FcRules
import VirtualTape.Verif.Format
import VirtualTape.Verif.Geometry
import VirtualTape.Verif.Lzf
import VirtualTape.Verif.MamLayout
import VirtualTape.Verif.ModeRefused
import VirtualTape.Verif.Ownership
import VirtualTape.Verif.PendingWrites
import VirtualTape.Verif.Preemption
import VirtualTape.Verif.ReadAttribute
import VirtualTape.Verif.ReadErrors
import VirtualTape.Verif.Reclaim
import VirtualTape.Verif.ReserveIn
import VirtualTape.Verif.Rewind
import VirtualTape.Verif.TaskProgress
