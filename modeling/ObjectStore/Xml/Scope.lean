import ObjectStore.Xml.Event

/-!
# Namespaces

Which namespace names are bound, and to what. It matters for one thing only: an
element is absent in all but form if it carries `nil` of the schema instance
namespace. A name is bound from the tag that binds it on. It ceases to be bound
when the end of that element has gone by, so at the end itself it still is. Ends
are counted and not matched with their starts: after an element whose inside was
passed over unseen, more names stay bound.
-/

namespace ObjectStore.Xml

/-- The namespaces of XML itself are addresses at one host. -/
def namespaceAt (path : String) : Bytes := Utf8.encode ("http:" ++ "//www.w3.org/" ++ path)

def xmlNamespace : Bytes := namespaceAt "XML/1998/namespace"

def xmlnsNamespace : Bytes := namespaceAt "2000/xmlns/"

/-- The schema instance namespace. -/
def instanceNamespace : Bytes := namespaceAt "2001/XMLSchema-instance"

structure Binding where
  depth : Nat
  name : Bytes
  target : Bytes
  deriving DecidableEq, Repr

/-- The bindings in force, the innermost first. `ended` says that the last
event was an end, which is still to be counted. -/
structure Scope where
  depth : Nat
  bindings : List Binding
  ended : Bool
  deriving DecidableEq, Repr

namespace Scope

def outermost : Scope := ⟨0, [], false⟩

/-- Counts an end that has gone by. -/
def settle (s : Scope) : Scope :=
  if s.ended then
    ⟨s.depth - 1, s.bindings.dropWhile fun b => s.depth - 1 < b.depth, false⟩
  else s

end Scope

/-- The name that an attribute binds, if it is a binding. The empty name stands
for names without a namespace name. -/
def Attribute.boundName? (a : Attribute) : Option Bytes :=
  if namespaceName? a.name = some (Utf8.encode "xmlns") then some (localName a.name) else none

/-- The two names that are fixed may not be bound to anything else, nor any
other name to their namespaces. -/
def Attribute.BindingAllowed (a : Attribute) : Prop :=
  match a.boundName? with
  | none => True
  | some name =>
    if name = Utf8.encode "xml" then a.value = xmlNamespace
    else name ≠ Utf8.encode "xmlns" ∧ a.value ≠ xmlNamespace ∧ a.value ≠ xmlnsNamespace

instance (a : Attribute) : Decidable a.BindingAllowed := by
  unfold Attribute.BindingAllowed
  split
  · infer_instance
  · split <;> infer_instance

namespace Scope

/-- The scope inside a tag, unless the tag binds a name that it may not. What
follows a malformed attribute binds nothing. -/
def enter? (s : Scope) (t : Tag) : Option Scope :=
  let attributes := ((t.attributes false).takeWhile Option.isSome).filterMap id
  if ∀ a ∈ attributes, a.BindingAllowed then
    let bound := attributes.filterMap fun a =>
      a.boundName?.map fun name => Binding.mk (s.depth + 1) name a.value
    some ⟨s.depth + 1, bound.reverse ++ s.bindings, false⟩
  else none

def at? (s : Scope) : Event → Option Scope
  | .start tag => s.settle.enter? tag
  | .finish _ => some { s.settle with ended := true }
  | _ => some s.settle

/-- What a namespace name is bound to. The empty name is not one. -/
def lookup? (s : Scope) (name : Bytes) : Option Bytes :=
  if name = [] then none else (s.bindings.find? (·.name = name)).map Binding.target

end Scope

/-- The attribute is `nil` of the schema instance namespace and true. -/
def Attribute.saysNil (scope : Scope) (a : Attribute) : Bool :=
  (match namespaceName? a.name with
    | some name => scope.lookup? name == some instanceNamespace
    | none => false) &&
  localName a.name == Utf8.encode "nil" &&
  (a.value == Utf8.encode "true" || a.value == Utf8.encode "1")

/-- The element is declared to be nil, as far as its attributes can be
read. -/
def Tag.isNil (scope : Scope) (t : Tag) : Bool :=
  ((t.attributes true).filterMap id).any (·.saysNil scope)

end ObjectStore.Xml
