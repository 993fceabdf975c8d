import Mathlib
import RegistryAuth.Proofs.Except
import RegistryAuth.Transport.Basic

/-!
# Logs and runs

A transport says itself what it has sent, in `Handled.sendings`.  That is worth something
only if the network has seen the same, and `Peer.Logs` says so: sent one after the other,
the messages of a log get the replies that stand in it, and they leave the network where
it is found afterwards.  Since nothing but `Peer.send` leads from one state of the network
to the next, a log that starts and ends in the right states has left nothing out.

A transport lives through many requests, and may be closed in between.  `Action` is one
thing that is done with it, and `AuthTransport.outcomes` is what can be seen of a list of
them: each answer, the messages that were sent for it, and the token at hand after it.
-/

namespace RegistryAuth

/-- Sent one after the other from a state of the network on, the messages of a log get the
replies that stand in it, and they leave the network in the last state. -/
inductive Peer.Logs {σ : Type} (peer : Peer σ) : σ → List Sending → σ → Prop where
  | nil (s : σ) : Peer.Logs peer s [] s
  | cons {s s' : σ} {m : Sending} {log : List Sending}
      (reply_eq : (peer.send m.request s).1 = m.reply)
      (rest : Peer.Logs peer (peer.send m.request s).2 log s') : Peer.Logs peer s (m :: log) s'

namespace Peer.Logs

variable {σ : Type} {peer : Peer σ}

/-- A message with the reply that it gets is a log. -/
theorem single (purpose : Purpose) (request : Request) (isReleased : Bool) (s : σ) :
    peer.Logs s [⟨purpose, request, (peer.send request s).1, isReleased⟩]
      (peer.send request s).2 :=
  .cons rfl (.nil _)

theorem append {s s' s'' : σ} {log log' : List Sending} (h : peer.Logs s log s')
    (h' : peer.Logs s' log' s'') : peer.Logs s (log ++ log') s'' := by
  induction h with
  | nil s => exact h'
  | cons hreply _ ih => exact .cons hreply (ih h')

end Peer.Logs

/-- A network that gives replies from a list, whatever it is sent, and none when the list
is at its end. -/
def Peer.scripted : Peer (List (Except SendFailure Response)) where
  send _ replies :=
    match replies with
    | [] => (.error ⟨.connect, "script exhausted"⟩, [])
    | reply :: replies => (reply, replies)
  close replies := replies

/-- The request by which the registry at `registry.example.com` is asked whether it is
one. -/
def Request.sample : Request :=
  ⟨"GET", ⟨"https".toList, [], "registry.example.com".toList, none, "/v2/".toList, none, none⟩,
    .empty, .held []⟩

theorem Request.make_sample :
    Request.make "GET" "https://registry.example.com/v2/" [] [] = .ok Request.sample := rfl

namespace AuthTransport

theorem make_eq_ok {address repo : String} {identity : Identity} {t : AuthTransport}
    (h : make address repo identity = .ok t) :
    ∃ endpoint, Address.parse address = .ok endpoint ∧
      t = ⟨address, endpoint, repo, identity, none⟩ := by
  obtain ⟨endpoint, hparse, rfl⟩ := Except.map_eq_ok h
  exact ⟨endpoint, hparse, rfl⟩

theorem make_of_parse {address : String} {endpoint : Address}
    (h : Address.parse address = .ok endpoint) (repo : String) (identity : Identity) :
    make address repo identity = .ok ⟨address, endpoint, repo, identity, none⟩ := by
  rw [make, h]
  rfl

/-- A transport for one repository of that registry. -/
def sample (identity : Identity) : AuthTransport :=
  ⟨"registry.example.com", ⟨"registry.example.com", none⟩, "lib/app", identity, none⟩

theorem make_sample (identity : Identity) :
    make "registry.example.com" "lib/app" identity = .ok (sample identity) := by
  cbv

/-- What is done with a transport. -/
inductive Action where
  | send (request : Request)
  | close

/-- What an action shows: the answer to a request, the messages that were sent for it, and
the token at hand afterwards. -/
structure Outcome where
  result : Option (Except TransportError Response)
  sendings : List Sending
  token : Option Json

/-- What became of an action. -/
structure Done (σ : Type) where
  outcome : Outcome
  carrier : AuthTransport
  peer : σ

variable {σ : Type}

/-- Does something with a transport. -/
def act (t : AuthTransport) (peer : Peer σ) (s : σ) : Action → Done σ
  | .send request =>
    let h := t.handle peer request s
    ⟨⟨some h.result, h.sendings, h.carrier.token⟩, h.carrier, h.peer⟩
  | .close => ⟨⟨none, [], t.token⟩, t, t.close peer s⟩

/-- What is seen of actions that are done in order. -/
def outcomes (peer : Peer σ) : AuthTransport → List Action → σ → List Outcome
  | _, [], _ => []
  | t, a :: actions, s =>
    let done := t.act peer s a
    done.outcome :: outcomes peer done.carrier actions done.peer

/-- The messages of some outcomes, in order. -/
def log (outcomes : List Outcome) : List Sending := outcomes.flatMap Outcome.sendings

@[simp] theorem log_nil : log [] = [] := rfl

@[simp] theorem log_cons (o : Outcome) (outcomes : List Outcome) :
    log (o :: outcomes) = o.sendings ++ log outcomes := List.flatMap_cons

theorem log_append (before after : List Outcome) :
    log (before ++ after) = log before ++ log after :=
  List.flatMap_append

/-- The token of an outcome is the one that the transport has afterwards. -/
theorem token_outcome_act (t : AuthTransport) (peer : Peer σ) (s : σ) (a : Action) :
    (t.act peer s a).outcome.token = (t.act peer s a).carrier.token := by
  cases a <;> rfl

end AuthTransport
end RegistryAuth
