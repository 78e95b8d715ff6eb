import CallSignaling.Json.Typed
import CallSignaling.Transport.Basic

/-!
# Descriptions and candidates — what peers tell each other, as JSON texts

A session description is a type with an SDP text.  `Outline` is the part of a description that the
local tracks decide: one media section per track.
-/

namespace CallSignaling

/-- What a session description is for. -/
inductive DescriptionKind where
  | unspecified
  | offer
  | provisionalAnswer
  | answer
  | rollback
deriving DecidableEq, Repr

namespace DescriptionKind

def name : DescriptionKind → String
  | .unspecified => "Unspecified"
  | .offer => "offer"
  | .provisionalAnswer => "pranswer"
  | .answer => "answer"
  | .rollback => "rollback"

def all : List DescriptionKind := [.unspecified, .offer, .provisionalAnswer, .answer, .rollback]

end DescriptionKind

/-! ### Reading -/

/-- A session description. -/
structure SessionDescription where
  kind : DescriptionKind
  sdp : String
deriving DecidableEq, Repr

namespace SessionDescription

open Json.Typed

/-- The fields of a description. -/
def form : Form SessionDescription where
  name := "struct RTCSessionDescription"
  fields := [
    { name := "type", required := true,
      read := fun d s => (alternative (DescriptionKind.all.map fun k => (k.name, k)) s).map
        fun (k, r) => ({ d with kind := k }, r) },
    { name := "sdp", required := true,
      read := fun d s => (text s).map fun (t, r) => ({ d with sdp := t }, r) }]

/-- The description written in a JSON text, or the text of the fault. -/
def read (s : String) : Except String SessionDescription :=
  let bytes := Utf8.encode s
  (form.read ⟨.unspecified, ""⟩ bytes).mapError fun f => f.message bytes

end SessionDescription

/-- A candidate with the media section it belongs to. -/
structure IceCandidate where
  candidate : String
  mid : Option String
  lineIndex : Option Nat
  usernameFragment : Option String
deriving DecidableEq, Repr

namespace IceCandidate

open Json.Typed

/-- The fields of a candidate. -/
def form : Form IceCandidate where
  name := "struct RTCIceCandidateInit"
  fields := [
    { name := "candidate", required := true,
      read := fun c s => (text s).map fun (t, r) => ({ c with candidate := t }, r) },
    { name := "sdpMid", required := false,
      read := fun c s => (option text s).map fun (t, r) => ({ c with mid := t }, r) },
    { name := "sdpMLineIndex", required := false,
      read := fun c s => (option natural16 s).map fun (n, r) => ({ c with lineIndex := n }, r) },
    { name := "usernameFragment", required := false,
      read := fun c s => (option text s).map fun (t, r) => ({ c with usernameFragment := t }, r) }]

/-- The candidate written in a JSON text, or the text of the fault. -/
def read (s : String) : Except String IceCandidate :=
  let bytes := Utf8.encode s
  (form.read ⟨"", none, none, none⟩ bytes).mapError fun f => f.message bytes

end IceCandidate

/-! ### Outlines -/

/-- The media part of a description: its sections are numbered in the order of the tracks. -/
structure Outline where
  kind : DescriptionKind
  tracks : List Track
deriving DecidableEq, Repr

namespace Outline

/-- The payload types offered for a kind of media. -/
def payloadTypes : MediaKind → List Nat
  | .audio => [111, 9, 0, 8]
  | .video => [96, 98, 100, 102, 127, 125, 108, 123, 41, 126, 116]

/-- The line that opens a media section. -/
def mediaLine (kind : MediaKind) : String :=
  (payloadTypes kind).foldl (fun s n => s ++ " " ++ toString n)
    ("m=" ++ kind.name ++ " 9 UDP/TLS/RTP/SAVPF")

/-- A section's lines that do not change from one description to the next. -/
def sectionLines (index : Nat) (t : Track) : List String :=
  [mediaLine t.kind, "a=mid:" ++ toString index, "a=msid:" ++ t.stream ++ " " ++ t.id]

def lines (o : Outline) : List String :=
  o.tracks.zipIdx.flatMap fun (t, i) => sectionLines i t

end Outline

end CallSignaling
