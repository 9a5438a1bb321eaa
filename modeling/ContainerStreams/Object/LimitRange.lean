import ContainerStreams.Object.Basic

set_option autoImplicit false

namespace ContainerStreams

structure LimitRangeItem where
  limitType : String
  max : SortedMap String := {}
  min : SortedMap String := {}
  deriving DecidableEq

structure LimitRangeSpec where
  limits : List LimitRangeItem := []
  deriving DecidableEq

structure LimitRange where
  metadata : ObjectMeta := {}
  spec : LimitRangeSpec := {}
  deriving DecidableEq

structure LimitRangeList where
  items : List LimitRange := []
  deriving DecidableEq, Inhabited

namespace LimitRangeItem

def ofJson? (value : Json) : Option LimitRangeItem := do
  let record ← value.record? ["type", "max", "min"]
  return {
    limitType := ← record.required? "type" Json.text?
    max := ← record.optional? "max" (Json.map? Json.text?) {}
    min := ← record.optional? "min" (Json.map? Json.text?) {} }

/-- The members are sorted by name. -/
def toJson (item : LimitRangeItem) : Json :=
  .object [("max", .ofMap Json.string item.max), ("min", .ofMap Json.string item.min),
    ("type", .string item.limitType)]

end LimitRangeItem

namespace LimitRangeSpec

def ofJson? (value : Json) : Option LimitRangeSpec := do
  let record ← value.record? ["limits"]
  return { limits := ← record.optional? "limits" (Json.list? LimitRangeItem.ofJson?) [] }

def toJson (spec : LimitRangeSpec) : Json :=
  .object [("limits", .ofList LimitRangeItem.toJson spec.limits)]

end LimitRangeSpec

namespace LimitRange

def ofJson? (value : Json) : Option LimitRange := do
  let record ← value.record? ["metadata", "spec"]
  return {
    metadata := ← record.optional? "metadata" ObjectMeta.ofJson? {}
    spec := ← record.optional? "spec" LimitRangeSpec.ofJson? {} }

def toJson (range : LimitRange) : Json :=
  .object [("metadata", range.metadata.toJson), ("spec", range.spec.toJson)]

end LimitRange

namespace LimitRangeList

def ofJson? (value : Json) : Option LimitRangeList := do
  let record ← value.record? ["items"]
  return { items := ← record.optional? "items" (Json.list? LimitRange.ofJson?) [] }

def toJson (list : LimitRangeList) : Json :=
  .object [("items", .ofList LimitRange.toJson list.items)]

end LimitRangeList

end ContainerStreams
