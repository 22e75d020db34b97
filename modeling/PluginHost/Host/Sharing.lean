import PluginHost.Act
import PluginHost.Json.Basic

/-!
What plugins share, by type. Whoever asks for a type first makes its instance, and whoever asks
later gets the same one. A registry knows an instance by a number only. The instance knows its type
itself, and this is checked whenever it is handed out. Every application has a registry, which all
the clones of its context refer to.
-/

set_option autoImplicit false

namespace PluginHost

/-- An instance of a type. -/
structure Instance (ν : Type) where
  type : String
  value : ν
deriving DecidableEq, Repr

/-- What plugin code has of an application, as far as this is about what is shared. -/
structure PluginContext where
  registry : Nat
deriving DecidableEq, Repr

/-- The instances that were ever made, by number, the registries from types to instances, and the
contexts that refer to the registries. -/
structure Sharing (ν : Type) where
  instances : Array (Instance ν) := #[]
  registries : Array (Members Nat) := #[]
  contexts : Array PluginContext := #[]

namespace Sharing

variable {ν σ : Type}

/-- What a registry has for a type. -/
def find? (s : Sharing ν) (registry : Nat) (type : String) : Option Nat :=
  s.registries[registry]?.bind fun entries => entries.find? type

def type? (s : Sharing ν) (number : Nat) : Option String := s.instances[number]?.map Instance.type

def value? (s : Sharing ν) (number : Nat) : Option ν := s.instances[number]?.map Instance.value

/-- An instance as one of a type, if it is one. -/
def downcast (s : Sharing ν) (type : String) (number : Nat) : Option Nat :=
  if s.type? number = some type then some number else none

/-- An instance as one of the type that it was asked for by. -/
def expect (s : Sharing ν) (type : String) (number : Nat) : Except Failure Nat :=
  match s.downcast type number with
  | some number => .ok number
  | none => .error (.unexpectedType type)

/-- Makes an instance, and enters it into a registry. -/
def enter (s : Sharing ν) (registry : Nat) (type : String) (value : ν) : Sharing ν :=
  { s with
    instances := s.instances.push ⟨type, value⟩
    registries := s.registries.modify registry fun entries =>
      entries.insert type s.instances.size }

/-- The instance of a type, made by `init` if there is none yet. That it is going to be made is told
before. An `init` that does not return leaves the registry as it is. -/
def getOrInit (announce : String → σ → σ) (registry : Nat) (type : String) (init : Act σ ν) :
    Act (Sharing ν × σ) (Except Failure Nat) := do
  let s ← Act.look Prod.fst
  let number ← match s.find? registry type with
    | some number => pure number
    | none => do
      let make := Act.modify (announce type) >>= fun _ => init
      let value ← Act.within Prod.snd (fun w t => (t.1, w)) make
      Act.step fun t => (t.1.instances.size, (t.1.enter registry type value, t.2))
  Act.look fun t => t.1.expect type number

/-- The instance of a type, if there is one. -/
def get (s : Sharing ν) (registry : Nat) (type : String) : Option Nat :=
  (s.find? registry type).bind (s.downcast type)

/-- How many types a registry has an instance of. -/
def len (s : Sharing ν) (registry : Nat) : Nat := (s.registries[registry]?.map List.length).getD 0

/-- Takes all instances out of a registry. They stay for those who hold them. -/
def clear (s : Sharing ν) (registry : Nat) : Sharing ν :=
  { s with registries := s.registries.modify registry fun _ => [] }

/-- A new application has a registry with nothing in it, and a context. -/
def found (s : Sharing ν) : Sharing ν :=
  { s with
    registries := s.registries.push []
    contexts := s.contexts.push ⟨s.registries.size⟩ }

/-- A clone of a context refers to what the context refers to. -/
def clone (s : Sharing ν) (context : PluginContext) : Sharing ν :=
  { s with contexts := s.contexts.push context }

/-- Whoever holds an instance may change what is in it. -/
def alter (s : Sharing ν) (number : Nat) (change : ν → ν) : Sharing ν :=
  { s with instances := s.instances.modify number fun i => { i with value := change i.value } }

end Sharing

end PluginHost
