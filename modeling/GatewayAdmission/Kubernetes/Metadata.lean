import GatewayAdmission.Json.Record
import GatewayAdmission.Time.Instant

/-!
# Types that every Kubernetes object shares

The metadata of an object and the user behind a request. All of their fields may be missing or
`null`; what is neither is written back.
-/

namespace GatewayAdmission

namespace Codec

/-- An instant in its written form. -/
def instant : Codec Instant where
  read room d := (text.read room d).bind Instant.parse?
  write t := .str t.text

end Codec

structure OwnerReference where
  apiVersion : String
  blockOwnerDeletion : Option Bool
  controller : Option Bool
  kind : String
  name : String
  uid : String

/-- Which fields a manager of an object owns. -/
structure ManagedFields where
  apiVersion : Option String
  fieldsType : Option String
  fieldsV1 : Option Raw
  manager : Option String
  operation : Option String
  subresource : Option String
  time : Option Instant

structure ObjectMeta where
  annotations : Option (KeyedMap String) := none
  creationTimestamp : Option Instant := none
  deletionGracePeriodSeconds : Option Int64 := none
  deletionTimestamp : Option Instant := none
  finalizers : Option (List String) := none
  generateName : Option String := none
  generation : Option Int64 := none
  labels : Option (KeyedMap String) := none
  managedFields : Option (List ManagedFields) := none
  name : Option String := none
  namespace_ : Option String := none
  ownerReferences : Option (List OwnerReference) := none
  resourceVersion : Option String := none
  selfLink : Option String := none
  uid : Option String := none

structure UserInfo where
  extra : Option (KeyedMap (List String))
  groups : Option (List String)
  uid : Option String
  username : Option String

namespace OwnerReference

/-- A text that is empty when it is missing or `null`. -/
def text (name : String) : Field String :=
  .defaulted name (Codec.text.orDefault "") ""

def fields : Fields OwnerReference :=
  .iso (.cons (text "apiVersion") <|
      .cons (.optional "blockOwnerDeletion" .flag) <|
      .cons (.optional "controller" .flag) <|
      .cons (text "kind") <|
      .cons (text "name") <|
      .cons (text "uid") .nil)
    (fun (apiVersion, blockOwnerDeletion, controller, kind, name, uid, ()) =>
      { apiVersion, blockOwnerDeletion, controller, kind, name, uid })
    (fun r => (r.apiVersion, r.blockOwnerDeletion, r.controller, r.kind, r.name, r.uid, ()))

def codec : Codec OwnerReference := .record .lenient fields

end OwnerReference

namespace ManagedFields

def fields : Fields ManagedFields :=
  .iso (.cons (.optional "apiVersion" .text) <|
      .cons (.optional "fieldsType" .text) <|
      .cons (.optional "fieldsV1" .raw) <|
      .cons (.optional "manager" .text) <|
      .cons (.optional "operation" .text) <|
      .cons (.optional "subresource" .text) <|
      .cons (.optional "time" .instant) .nil)
    (fun (apiVersion, fieldsType, fieldsV1, manager, operation, subresource, time, ()) =>
      { apiVersion, fieldsType, fieldsV1, manager, operation, subresource, time })
    (fun m => (m.apiVersion, m.fieldsType, m.fieldsV1, m.manager, m.operation, m.subresource,
      m.time, ()))

def codec : Codec ManagedFields := .record .lenient fields

end ManagedFields

namespace ObjectMeta

def fields : Fields ObjectMeta :=
  .iso (.cons (.optional "annotations" (.map .text)) <|
      .cons (.optional "creationTimestamp" .instant) <|
      .cons (.optional "deletionGracePeriodSeconds" .int64) <|
      .cons (.optional "deletionTimestamp" .instant) <|
      .cons (.optional "finalizers" (.list .text)) <|
      .cons (.optional "generateName" .text) <|
      .cons (.optional "generation" .int64) <|
      .cons (.optional "labels" (.map .text)) <|
      .cons (.optional "managedFields" (.list ManagedFields.codec)) <|
      .cons (.optional "name" .text) <|
      .cons (.optional "namespace" .text) <|
      .cons (.optional "ownerReferences" (.list OwnerReference.codec)) <|
      .cons (.optional "resourceVersion" .text) <|
      .cons (.optional "selfLink" .text) <|
      .cons (.optional "uid" .text) .nil)
    (fun (annotations, creationTimestamp, deletionGracePeriodSeconds, deletionTimestamp,
        finalizers, generateName, generation, labels, managedFields, name, namespace_,
        ownerReferences, resourceVersion, selfLink, uid, ()) =>
      { annotations, creationTimestamp, deletionGracePeriodSeconds, deletionTimestamp,
        finalizers, generateName, generation, labels, managedFields, name, namespace_,
        ownerReferences, resourceVersion, selfLink, uid })
    (fun m => (m.annotations, m.creationTimestamp, m.deletionGracePeriodSeconds,
      m.deletionTimestamp, m.finalizers, m.generateName, m.generation, m.labels,
      m.managedFields, m.name, m.namespace_, m.ownerReferences, m.resourceVersion, m.selfLink,
      m.uid, ()))

def codec : Codec ObjectMeta := .record .lenient fields

end ObjectMeta

namespace UserInfo

def fields : Fields UserInfo :=
  .iso (.cons (.optional "extra" (.map (.list .text))) <|
      .cons (.optional "groups" (.list .text)) <|
      .cons (.optional "uid" .text) <|
      .cons (.optional "username" .text) .nil)
    (fun (extra, groups, uid, username, ()) => { extra, groups, uid, username })
    (fun u => (u.extra, u.groups, u.uid, u.username, ()))

def codec : Codec UserInfo := .record .lenient fields

end UserInfo

end GatewayAdmission
