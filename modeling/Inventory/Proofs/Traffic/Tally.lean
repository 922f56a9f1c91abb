import Inventory.Proofs.EventStore
import Inventory.Proofs.Traffic

/-! A tally: one kind of event, which counts, and one kind of command, which makes a number of them happen.
It is the least at which dispatches can get in each other's way. -/
namespace Inventory

structure Mark where
deriving DecidableEq, Repr

namespace Tally

def markType : EventType :=
  ⟨"Mark"⟩

instance : Payload Mark where
  eventType _ := markType
  encode _ := .ok .null

def registry : EventRegistry Mark where
  kinds := [.of markType (fun _ => .ok ()) (fun _ => ⟨⟩) fun _ => rfl]

theorem keeps_mark (mark : Mark) : registry.Keeps mark :=
  ⟨.null, rfl, rfl⟩

def stream : StreamId :=
  ⟨⟨"Tally"⟩, ⟨"0"⟩⟩

def elsewhere : StreamId :=
  ⟨⟨"Tally"⟩, ⟨"1"⟩⟩

def commandBus (answer : Except Fault Unit) : CommandBus Mark Unit Nat Nat where
  publisher :=
    { publish := fun deployment _ => (answer, deployment)
      store_publish := fun _ _ => rfl }
  aggregates _ := ⟨[⟨stream.aggregateType, fun _ => 0⟩]⟩
  rules _ :=
    { apply := fun count _ => (count + 1, none)
      decide := fun _ _ marks => .ok (List.replicate marks ⟨⟩) }
  target _ := stream
  retry := .standard

/-- Two dispatches read the stream, the later one stores its marks first, and the other one has to
start again. -/
def race : List (Move Mark Unit Nat Nat) :=
  [.start (commandBus (.ok ())) ⟨0, .zero⟩ 2, .start (commandBus (.ok ())) ⟨0, .zero⟩ 1, .step 0 ⟨0, .zero⟩] ++
    List.replicate 6 (.step 1 ⟨7, .zero⟩) ++ List.replicate 17 (.step 0 ⟨9, .zero⟩)

theorem commandBus_of_race {started : CommandBus Mark Unit Nat Nat} {moment : Moment} {marks : Nat}
    (member : .start started moment marks ∈ race) : started = commandBus (.ok ()) := by
  simp [race] at member
  rcases member with ⟨same, _⟩ | ⟨same, _⟩
  · exact same
  · exact same

end Tally

end Inventory
