import EventWiring.Json.Equality
import EventWiring.Json.Record
import EventWiring.Resource.Timestamp
import EventWiring.Text.TextMap

/-!
# Metadata of objects

Names, labels, owners and versions as the API server keeps them for every object. All of it may be
absent.
-/

namespace EventWiring

open Json (Decoder Fields)

/-- A field of metadata: absent, `null` or a value. -/
def Json.Fields.optional {α σ γ : Type} (name : String) (d : Decoder α) (rest : Fields σ γ) :
    Fields (Option (Option α) × σ) (Option α × γ) :=
  .cons name d.option (.blank none) rest

/-- A text that counts as empty when it is absent. -/
def Json.Decoder.textOrEmpty : Decoder String := Decoder.string.option.map (·.getD "")

structure OwnerReference where
  apiVersion : String
  kind : String
  name : String
  uid : String
  controller : Option Bool
  blockOwnerDeletion : Option Bool
deriving DecidableEq, Repr

namespace OwnerReference

def toJson (o : OwnerReference) : Json :=
  .object ([("apiVersion", .string o.apiVersion)] ++
    Json.member? "blockOwnerDeletion" (o.blockOwnerDeletion.map .bool) ++
    Json.member? "controller" (o.controller.map .bool) ++
    [("kind", .string o.kind), ("name", .string o.name), ("uid", .string o.uid)])

def decoder : Decoder OwnerReference :=
  .lenient "OwnerReference"
    (.cons "apiVersion" .textOrEmpty (.blank "") <|
      .optional "blockOwnerDeletion" .bool <| .optional "controller" .bool <|
      .cons "kind" .textOrEmpty (.blank "") <| .cons "name" .textOrEmpty (.blank "") <|
      .cons "uid" .textOrEmpty (.blank "") .nil)
    fun (apiVersion, block, controller, kind, name, uid, ()) =>
      ⟨apiVersion, kind, name, uid, controller, block⟩

end OwnerReference

/-- Which fields of an object one writer manages. -/
structure ManagedFields where
  apiVersion : Option String
  fieldsType : Option String
  fieldsV1 : Option Json
  manager : Option String
  operation : Option String
  subresource : Option String
  time : Option Timestamp
deriving DecidableEq

namespace ManagedFields

def toJson (m : ManagedFields) : Json :=
  .object (Json.member? "apiVersion" (m.apiVersion.map .string) ++
    Json.member? "fieldsType" (m.fieldsType.map .string) ++ Json.member? "fieldsV1" m.fieldsV1 ++
    Json.member? "manager" (m.manager.map .string) ++
    Json.member? "operation" (m.operation.map .string) ++
    Json.member? "subresource" (m.subresource.map .string) ++
    Json.member? "time" (m.time.map Timestamp.toJson))

def decoder : Decoder ManagedFields :=
  .lenient "ManagedFieldsEntry"
    (.optional "apiVersion" .string <| .optional "fieldsType" .string <|
      .optional "fieldsV1" .any <| .optional "manager" .string <|
      .optional "operation" .string <| .optional "subresource" .string <|
      .optional "time" Timestamp.decoder .nil)
    fun (apiVersion, fieldsType, fieldsV1, manager, operation, subresource, time, ()) =>
      ⟨apiVersion, fieldsType, fieldsV1, manager, operation, subresource, time⟩

end ManagedFields

structure Metadata where
  annotations : Option TextMap := none
  creationTimestamp : Option Timestamp := none
  deletionGracePeriodSeconds : Option Int := none
  deletionTimestamp : Option Timestamp := none
  finalizers : Option (List String) := none
  generateName : Option String := none
  generation : Option Int := none
  labels : Option TextMap := none
  managedFields : Option (List ManagedFields) := none
  name : Option String := none
  space? : Option String := none
  ownerReferences : Option (List OwnerReference) := none
  resourceVersion : Option String := none
  selfLink : Option String := none
  uid : Option String := none
deriving DecidableEq

namespace Metadata

/-- The name, or else the stem of a name yet to be generated. -/
def displayName (m : Metadata) : String := (m.name.or m.generateName).getD ""

/-- The namespace; objects of the cluster are in the empty one. -/
def space (m : Metadata) : String := m.space?.getD ""

def markers (m : Metadata) : List String := m.finalizers.getD []

def deleting (m : Metadata) : Bool := m.deletionTimestamp.isSome

def toJson (m : Metadata) : Json :=
  .object (Json.member? "annotations" (m.annotations.map TextMap.toJson) ++
    Json.member? "creationTimestamp" (m.creationTimestamp.map Timestamp.toJson) ++
    Json.member? "deletionGracePeriodSeconds" (m.deletionGracePeriodSeconds.map Json.int) ++
    Json.member? "deletionTimestamp" (m.deletionTimestamp.map Timestamp.toJson) ++
    Json.member? "finalizers" (m.finalizers.map fun fs => .array (fs.map .string)) ++
    Json.member? "generateName" (m.generateName.map .string) ++
    Json.member? "generation" (m.generation.map Json.int) ++
    Json.member? "labels" (m.labels.map TextMap.toJson) ++
    Json.member? "managedFields"
      (m.managedFields.map fun fs => .array (fs.map ManagedFields.toJson)) ++
    Json.member? "name" (m.name.map .string) ++
    Json.member? "namespace" (m.space?.map .string) ++
    Json.member? "ownerReferences"
      (m.ownerReferences.map fun os => .array (os.map OwnerReference.toJson)) ++
    Json.member? "resourceVersion" (m.resourceVersion.map .string) ++
    Json.member? "selfLink" (m.selfLink.map .string) ++ Json.member? "uid" (m.uid.map .string))

def decoder : Decoder Metadata :=
  .lenient "ObjectMeta"
    (.optional "annotations" TextMap.decoder <|
      .optional "creationTimestamp" Timestamp.decoder <|
      .optional "deletionGracePeriodSeconds" .int64 <|
      .optional "deletionTimestamp" Timestamp.decoder <|
      .optional "finalizers" Decoder.string.list <| .optional "generateName" .string <|
      .optional "generation" .int64 <| .optional "labels" TextMap.decoder <|
      .optional "managedFields" ManagedFields.decoder.list <| .optional "name" .string <|
      .optional "namespace" .string <|
      .optional "ownerReferences" OwnerReference.decoder.list <|
      .optional "resourceVersion" .string <| .optional "selfLink" .string <|
      .optional "uid" .string .nil)
    fun (annotations, created, grace, deleted, finalizers, generateName, generation, labels, fields,
        name, space, owners, version, link, uid, ()) =>
      ⟨annotations, created, grace, deleted, finalizers, generateName, generation, labels, fields,
        name, space, owners, version, link, uid⟩

end Metadata

end EventWiring
