/-
A stand-in for a broker's client. It writes down every call and answers as it was told to. All copies
of one stand-in write into one log.
-/
import ServiceBroker.Call

namespace ServiceBroker

/-- How a stand-in answers the calls of an endpoint. -/
abbrev Reaction (e : Endpoint) : Type := e.Request → Except Error e.Answer

/-- A stand-in answers the endpoints that it has a reaction for. There is one setting for each endpoint. -/
structure Fake where
  catalog : Option (Reaction .getCatalog) := none
  provision : Option (Reaction .provisionInstance) := none
  update : Option (Reaction .updateInstance) := none
  deprovision : Option (Reaction .deprovisionInstance) := none
  getInstance : Option (Reaction .getInstance) := none
  listInstances : Option (Reaction .listInstances) := none
  getOperation : Option (Reaction .getOperation) := none
  bind : Option (Reaction .bind) := none
  unbind : Option (Reaction .unbind) := none
  getBinding : Option (Reaction .getBinding) := none
  availability : Option (Reaction .checkAvailability) := none

/-- The name of the setting that holds an endpoint's reaction. -/
def Endpoint.setting : Endpoint → String
  | .getCatalog => "catalog"
  | .provisionInstance => "provision"
  | .updateInstance => "update"
  | .deprovisionInstance => "deprovision"
  | .getInstance => "get_instance"
  | .listInstances => "list_instances"
  | .getOperation => "get_operation"
  | .bind => "bind"
  | .unbind => "unbind"
  | .getBinding => "get_binding"
  | .checkAvailability => "availability"

namespace Fake

/-- The setting of an endpoint. -/
def reaction (f : Fake) : (e : Endpoint) → Option (Reaction e)
  | .getCatalog => f.catalog
  | .provisionInstance => f.provision
  | .updateInstance => f.update
  | .deprovisionInstance => f.deprovision
  | .getInstance => f.getInstance
  | .listInstances => f.listInstances
  | .getOperation => f.getOperation
  | .bind => f.bind
  | .unbind => f.unbind
  | .getBinding => f.getBinding
  | .checkAvailability => f.availability

/-- Writes a call down, whatever is answered, and answers it. A call that nothing was said about is refused. -/
def react (log : List Call) (action : Call) (reaction : Option (Reaction e)) (request : e.Request) :
    Except Error e.Answer × List Call :=
  (match reaction with
    | some answer => answer request
    | none => .error (.invalidRequest .unexpectedCall), log ++ [action])

/-- Carries a call out: the answer, and the log behind it. What is written down and which setting answers is said for
each endpoint. -/
def perform (f : Fake) (log : List Call) : (call : Call) → Except Error call.endpoint.Answer × List Call
  | ⟨.getCatalog, ()⟩ => react log ⟨.getCatalog, ()⟩ f.catalog ()
  | ⟨.provisionInstance, r⟩ => react log ⟨.provisionInstance, r⟩ f.provision r
  | ⟨.updateInstance, r⟩ => react log ⟨.updateInstance, r⟩ f.update r
  | ⟨.deprovisionInstance, r⟩ => react log ⟨.deprovisionInstance, r⟩ f.deprovision r
  | ⟨.getInstance, r⟩ => react log ⟨.getInstance, r⟩ f.getInstance r
  | ⟨.listInstances, r⟩ => react log ⟨.listInstances, r⟩ f.listInstances r
  | ⟨.getOperation, r⟩ => react log ⟨.getOperation, r⟩ f.getOperation r
  | ⟨.bind, r⟩ => react log ⟨.bind, r⟩ f.bind r
  | ⟨.unbind, r⟩ => react log ⟨.unbind, r⟩ f.unbind r
  | ⟨.getBinding, r⟩ => react log ⟨.getBinding, r⟩ f.getBinding r
  | ⟨.checkAvailability, ()⟩ => react log ⟨.checkAvailability, ()⟩ f.availability ()

/-- What is done with a stand-in. -/
inductive Use
  /-- A call is made. -/
  | call (c : Call)
  /-- The log is looked at. -/
  | look
  /-- The log is cleared. -/
  | clear

/-- What a use shows. -/
inductive Shown
  | answer (c : Call) (result : Except Error c.endpoint.Answer)
  | calls (log : List Call)
  | cleared

/-- Uses a stand-in: what is shown, and the log behind it. -/
def use (f : Fake) (log : List Call) : Use → Shown × List Call
  | .call c =>
    let (result, log) := f.perform log c
    (.answer c result, log)
  | .look => (.calls log, log)
  | .clear => (.cleared, [])

/-- Which reactions a stand-in has. -/
def describe (f : Fake) : String :=
  let settings := Endpoint.all.map fun e =>
    e.setting ++ ": " ++ if (f.reaction e).isSome then "Some(Reaction)" else "None"
  "FakeClientConfiguration \x7b " ++ ", ".intercalate settings ++ " \x7d"

end Fake

end ServiceBroker
