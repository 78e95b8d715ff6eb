import CallSignaling.Json.Writer
import CallSignaling.Transport.Basic

/-!
# Scripted — a media transport that records its calls

A transport takes descriptions and candidates as opaque texts.  The scripted one records every call
that reaches it and refuses what its `Behaviour` says; once closed it refuses everything and records
only further closings.
-/

namespace CallSignaling

/-- A call as recorded. -/
inductive Call where
  | addTracks (ids : List String)
  | createOffer
  | createAnswer
  | setLocal (sdp : String)
  | setRemote (sdp : String)
  | addCandidate (candidate : String)
  | close
deriving DecidableEq, Repr

/-- What a scripted transport refuses. -/
structure Behaviour where
  rejectCreate : Bool := false
  rejectOffer : Bool := false
  rejectAnswer : Bool := false
  rejectRemoteDescription : Bool := false
  rejectTracks : Bool := false
  rejectCandidates : List String := []
deriving DecidableEq, Repr

/-- A scripted transport. -/
structure Scripted where
  remote : String
  behaviour : Behaviour
  calls : List Call
  descriptions : Nat
  closed : Bool
deriving DecidableEq, Repr

namespace Scripted

/-- A fresh transport for a remote peer. -/
def create (remote : String) (behaviour : Behaviour) : Scripted := ⟨remote, behaviour, [], 0, false⟩

/-- A call's result and the transport after it. -/
abbrev Reply (α : Type) := Except TransportError α × Scripted

def record (t : Scripted) (c : Call) : Scripted := { t with calls := t.calls ++ [c] }

/-- Records a call on an open transport and refuses it for the given reason, if there is one. -/
def attempt (t : Scripted) (c : Call) (refusal : Option String) : Reply Unit :=
  if t.closed then (.error .closed, t)
  else
    match refusal with
    | some reason => (.error (.rejected reason), t.record c)
    | none => (.ok (), t.record c)

/-- The text of the next description of the given type. -/
def descriptionText (t : Scripted) (kind : String) : String :=
  let version := toString (t.descriptions + 1)
  let sdp := "v=0\r\no=- " ++ version ++ " " ++ version ++ " IN IP4 127.0.0.1\r\n"
    ++ "s=mock-" ++ t.remote ++ "\r\nt=0 0\r\n"
  String.ofList (Json.writeObject
    [("sdp", Json.writeString sdp), ("type", Json.writeString kind)])

/-- Makes the next description, unless the call is refused. -/
def describe (t : Scripted) (c : Call) (kind : String) (refusal : Option String) : Reply String :=
  match t.attempt c refusal with
  | (.error e, t) => (.error e, t)
  | (.ok (), t) => (.ok (t.descriptionText kind), { t with descriptions := t.descriptions + 1 })

/-- A refusal with this reason, if wanted. -/
def refuse (wanted : Bool) (reason : String) : Option String := if wanted then some reason else none

def addTracks (t : Scripted) (tracks : List Track) : Reply Unit :=
  t.attempt (.addTracks (tracks.map Track.id)) (refuse t.behaviour.rejectTracks "tracks refused")

def createOffer (t : Scripted) : Reply String :=
  t.describe .createOffer "offer" (refuse t.behaviour.rejectOffer "offer refused")

def createAnswer (t : Scripted) : Reply String :=
  t.describe .createAnswer "answer" (refuse t.behaviour.rejectAnswer "answer refused")

def setLocal (t : Scripted) (sdp : String) : Reply Unit := t.attempt (.setLocal sdp) none

def setRemote (t : Scripted) (sdp : String) : Reply Unit :=
  t.attempt (.setRemote sdp)
    (refuse t.behaviour.rejectRemoteDescription "remote description refused")

def addCandidate (t : Scripted) (candidate : String) : Reply Unit :=
  t.attempt (.addCandidate candidate)
    (refuse (t.behaviour.rejectCandidates.contains candidate)
      ("candidate " ++ candidate ++ " refused"))

/-- Closes the transport; repeated closings are recorded too. -/
def close (t : Scripted) : Scripted := { t.record .close with closed := true }

/-- The candidates given to the transport, refused ones included. -/
def candidates (t : Scripted) : List String :=
  t.calls.filterMap fun c => match c with
    | .addCandidate s => some s
    | _ => none

/-- The remote descriptions given to the transport, refused ones included. -/
def remoteDescriptions (t : Scripted) : List String :=
  t.calls.filterMap fun c => match c with
    | .setRemote s => some s
    | _ => none

/-- How often the transport was closed. -/
def closings (t : Scripted) : Nat := t.calls.count .close

end Scripted

end CallSignaling
