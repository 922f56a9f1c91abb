/-! The names that events go by: which rules govern a stream, which aggregate it belongs to, and which kind
of event a payload is. All are plain texts that only serve to tell things apart, and they are ordered by
code point. -/
namespace Inventory

/-- Names the rules that govern an aggregate. -/
structure AggregateType where
  text : String
deriving DecidableEq, Repr

structure AggregateId where
  text : String
deriving DecidableEq, Repr

/-- Names the form of a payload. -/
structure EventType where
  text : String
deriving DecidableEq, Repr

instance : Ord AggregateType where
  compare first second := compare first.text second.text

instance : Ord AggregateId where
  compare first second := compare first.text second.text

instance : Ord EventType where
  compare first second := compare first.text second.text

/-- A stream holds the events of one aggregate of one type. -/
structure StreamId where
  aggregateType : AggregateType
  aggregateId : AggregateId
deriving DecidableEq, Repr

instance : Ord StreamId where
  compare first second :=
    (compare first.aggregateType second.aggregateType).then
      (compare first.aggregateId second.aggregateId)

end Inventory
