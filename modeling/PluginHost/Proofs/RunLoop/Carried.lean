import PluginHost.Application.RunLoop
import PluginHost.Proofs.Leads

set_option autoImplicit false

namespace PluginHost

open Act (Leads Keeps)

/-- A property of the host goes with any journal, and code keeps it. -/
structure Host.Carried (dispatch : Dispatch) (P : Host → Prop) : Prop where
  journal : ∀ journal (h : Host), P h → P { h with journal := journal }
  code : ∀ code, Keeps P (dispatch code)

namespace Host.Carried

variable {dispatch : Dispatch} {P : Host → Prop} {α : Type}

theorem onEnsemble {act : Act Host α} (keeps : Keeps P act) :
    Keeps (fun e : Ensemble => P e.host) (Ensemble.onHost act) :=
  keeps.within fun _ _ => rfl

theorem onApplication {act : Act Host α} (keeps : Keeps P act) :
    Keeps (fun a : Application => P a.host) (Application.onHost act) :=
  (onEnsemble keeps).within fun _ _ => rfl

variable (carried : Carried dispatch P)

include carried

theorem tell (origin : Origin) (level : Level) (message : String)
    (fields : List (String × FieldValue)) :
    Keeps P (Act.modify fun h => h.tell origin level message fields) :=
  .modify fun h given => carried.journal _ h given

theorem invoke (slot : Slot) (hook : Hook) (code : Code) :
    Keeps (fun e : Ensemble => P e.host) (Ensemble.invoke dispatch slot hook code) := by
  refine Leads.andThen (.modify fun _ given => given) fun _ => ?_
  refine (onEnsemble ((carried.code code).guarded _)).andThen fun _ => ?_
  exact Leads.andThen (.modify fun _ given => given) fun _ => .pure _

theorem reloadAll (indices : List Nat) :
    Keeps (fun e : Ensemble => P e.host) (Ensemble.reloadAll dispatch indices) := by
  induction indices with
  | nil => exact .pure _
  | cons index rest ih =>
    refine Leads.get.andThen fun e => ?_
    split
    · exact .pure _
    · split
      · exact ih
      · split
        · exact ih
        · refine (carried.invoke _ _ _).andThen fun result => ?_
          cases result with
          | ok _ => exact ih
          | error _ => exact (onEnsemble (carried.tell _ _ _ _)).andThen fun _ => ih

theorem reload : Keeps (fun e : Ensemble => P e.host) (Ensemble.reload dispatch) :=
  (Leads.look _).andThen fun order => carried.reloadAll order

/-- The callback of the application is run, and then the plugins are asked. -/
theorem dispatchReload :
    Keeps (fun a : Application => P a.host) (Application.dispatchReload dispatch) := by
  have reloads : Keeps (fun a : Application => P a.host)
      (Application.onEnsemble (Ensemble.reload dispatch)) :=
    carried.reload.within fun _ _ => rfl
  refine (onApplication (carried.tell _ _ _ _)).andThen fun _ =>
    (Leads.look _).andThen fun callback => ?_
  cases callback with
  | none => exact reloads
  | some callback => exact (onApplication (carried.code callback)).andThen fun _ => reloads

end Host.Carried

end PluginHost
