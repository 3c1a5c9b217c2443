import Agenda.Key.Binary64
import Agenda.Key.Sequenced
import Agenda.LockedQueue
import Agenda.PriorityQueue.Operation
import Agenda.Text.Decimal
import Agenda.Text.Outline
import Agenda.Text.Quoted
import Agenda.Word
import Agenda.Json.Printer
import Agenda.Json.Reader
import Agenda.Json.Record
import Agenda.PriorityQueue.Outline
import Agenda.Settings.Json
import Agenda.Task.Json
import Agenda.Task.Spec
import Agenda.Main
import Agenda.Heap.Checked
import Agenda.Proofs.Inquiry
import Agenda.Proofs.Heap.Order
import Agenda.Proofs.Heap.Sift
import Agenda.Proofs.Heap.Repair
import Agenda.Proofs.Heap.Depth
import Agenda.Proofs.Heap.Path
import Agenda.Proofs.Heap.Subtree
import Agenda.Proofs.Heap.Questions
import Agenda.Proofs.Heap.Checked
import Agenda.PriorityQueue.Origin
import Agenda.Proofs.Bag
import Agenda.Proofs.PriorityQueue.Step
import Agenda.PriorityQueue.History
import Agenda.PriorityQueue.Draining
import Agenda.LockedQueue.History
import Agenda.Proofs.PriorityQueue.Conservation
import Agenda.Proofs.PriorityQueue.Refinement
import Agenda.Proofs.PriorityQueue.Sorting
import Agenda.Proofs.PriorityQueue.Check
import Agenda.Proofs.PriorityQueue.Rebuild
import Agenda.Proofs.PriorityQueue.Insertion
import Agenda.Proofs.PriorityQueue.Undo
import Agenda.Proofs.PriorityQueue.Questions
import Agenda.Proofs.PriorityQueue.Draining
import Agenda.Proofs.LockedQueue.Step
import Agenda.Proofs.LockedQueue.Service
import Agenda.Proofs.LockedQueue.Poisoning
import Agenda.Proofs.Bag.Movement
import Agenda.Proofs.LockedQueue.Inversion
import Agenda.Proofs.Line
import Agenda.Proofs.PriorityQueue.Arrival
import Agenda.Proofs.Session.Failure
import Agenda.Proofs.Session.Outcome
import Agenda.Proofs.Text.Blank
import Agenda.Proofs.Text.Decimal
import Agenda.Proofs.Task.Spec
import Agenda.Proofs.Heap.Relabel
import Agenda.Proofs.PriorityQueue.Mirror
import Agenda.Proofs.Json.Grammar
import Agenda.Proofs.Json.Token
import Agenda.Proofs.Json.Reader
import Agenda.Proofs.Json.Printer
import Agenda.Proofs.Json.Record
import Agenda.Proofs.Task.Json
import Agenda.Proofs.Session.ReadBack
import Agenda.Proofs.Settings.Json
