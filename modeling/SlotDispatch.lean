import SlotDispatch.Interchange.Read
import SlotDispatch.Main
import SlotDispatch.Proofs.Accounting
import SlotDispatch.Proofs.Blame
import SlotDispatch.Proofs.BuildOrder
import SlotDispatch.Proofs.Chronicle
import SlotDispatch.Proofs.Climbing
import SlotDispatch.Proofs.ClockMessage
import SlotDispatch.Proofs.Compatibility
import SlotDispatch.Proofs.Delivery
import SlotDispatch.Proofs.Dispatch
import SlotDispatch.Proofs.Extension
import SlotDispatch.Proofs.Grammar
import SlotDispatch.Proofs.Identity
import SlotDispatch.Proofs.Inheritance
import SlotDispatch.Proofs.Limits
import SlotDispatch.Proofs.Overflow
import SlotDispatch.Proofs.Overriding
import SlotDispatch.Proofs.Realization
import SlotDispatch.Proofs.RoundTrip
import SlotDispatch.Proofs.Sums
import SlotDispatch.Sample
import SlotDispatch.Session
