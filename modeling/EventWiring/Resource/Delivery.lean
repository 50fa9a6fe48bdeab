import EventWiring.Resource.Metadata

/-!
# Where and how events are delivered

The parts that schedulers, topics and pull subscriptions share: the secret with the credential, the
destination of the events and the attributes added to them.
-/

namespace EventWiring

open Json (Decoder Fields)

/-- A key of a secret in the object's namespace. -/
structure SecretKey where
  name : String
  key : String
deriving DecidableEq, Repr

namespace SecretKey

def standard : SecretKey := ⟨"google-cloud-key", "key.json"⟩

def toJson (s : SecretKey) : Json := .object [("name", .string s.name), ("key", .string s.key)]

def decoder : Decoder SecretKey :=
  .record "SecretKeySelector"
    (.cons "name" .string .refused <| .cons "key" .string .refused .nil)
    fun (name, key, ()) => ⟨name, key⟩

end SecretKey

/-- An addressable object that takes events. -/
structure SinkReference where
  apiVersion : String
  kind : String
  name : String
  space? : Option String
deriving DecidableEq, Repr

namespace SinkReference

def toJson (r : SinkReference) : Json :=
  .object ([("apiVersion", .string r.apiVersion), ("kind", .string r.kind),
    ("name", .string r.name)] ++ Json.member? "namespace" (r.space?.map .string))

def decoder : Decoder SinkReference :=
  .record "SinkReference"
    (.cons "apiVersion" .string .refused <| .cons "kind" .string .refused <|
      .cons "name" .string .refused <| .optional "namespace" .string .nil)
    fun (apiVersion, kind, name, space, ()) => ⟨apiVersion, kind, name, space⟩

end SinkReference

/-- An addressable object or a URI. -/
structure Destination where
  reference : Option SinkReference
  uri : Option String
deriving DecidableEq, Repr

namespace Destination

def toJson (d : Destination) : Json :=
  .object (Json.member? "ref" (d.reference.map SinkReference.toJson) ++
    Json.member? "uri" (d.uri.map .string))

def decoder : Decoder Destination :=
  .record "Destination"
    (.optional "ref" SinkReference.decoder <| .optional "uri" .string .nil)
    fun (reference, uri, ()) => ⟨reference, uri⟩

end Destination

/-- Attributes added to every event. -/
structure EventOverrides where
  extensions : TextMap
deriving DecidableEq, Repr

namespace EventOverrides

def toJson (o : EventOverrides) : Json := .object [("extensions", o.extensions.toJson)]

def decoder : Decoder EventOverrides :=
  .record "CloudEventOverrides"
    (.cons "extensions" TextMap.decoder (.default .empty) .nil) fun (extensions, ()) => ⟨extensions⟩

end EventOverrides

end EventWiring
