import TableQuery.Proofs.Load.Pages
import TableQuery.Proofs.Service.AccessLog

/-! Remote sources over a network.
A client sends its own header unless others were given, and takes an answer for a value exactly when it
was not refused and its octets are JSON. A query whose request was refused is answered as a fault of the
gateway. -/
namespace TableQuery
open TableQuery.Text

namespace Client

inductive Unreceived : ServerReply → Fault → Prop
  | refused {status : ℕ} (high : 400 ≤ status) (octets : List ℕ) :
      Unreceived (.answered status octets) (.refused status)
  | unread {status : ℕ} {octets : List ℕ} (low : status < 400)
      (unread : Json.readOctets? octets = none) : Unreceived (.answered status octets) .invalidBody
  | lost {name : String} (known : name ∈ transportFailures) (message : String) :
      Unreceived (.failed name message) (.requestFailed message)
  | other {name : String} (unknown : name ∉ transportFailures) (message : String) :
      Unreceived (.failed name message) (.raised (.foreign name) message)

theorem received {status : ℕ} {octets : List ℕ} {v : Value} (low : status < 400)
    (read : Json.readOctets? octets = some v) : receive (.answered status octets) = .ok v := by
  rw [receive, if_neg (Nat.not_le.mpr low), read]

theorem unreceived {reply : ServerReply} {f : Fault} (why : Unreceived reply f) :
    receive reply = .error f := by
  cases why with
  | refused high => rw [receive, if_pos high]
  | unread low unread => rw [receive, if_neg (Nat.not_le.mpr low), unread]
  | lost known => rw [receive, if_pos (by simpa using known)]
  | other unknown => rw [receive, if_neg (by simpa using unknown)]

theorem receiveOutcome (reply : ServerReply) :
    (∃ status octets v, reply = .answered status octets ∧ status < 400 ∧
      Json.readOctets? octets = some v ∧ receive reply = .ok v) ∨
    ∃ f, Unreceived reply f ∧ receive reply = .error f := by
  cases reply with
  | answered status octets =>
    by_cases high : 400 ≤ status
    · exact .inr ⟨_, .refused high octets, unreceived (.refused high octets)⟩
    have low := Nat.not_le.mp high
    cases read : Json.readOctets? octets with
    | none => exact .inr ⟨_, .unread low read, unreceived (.unread low read)⟩
    | some v => exact .inl ⟨status, octets, v, rfl, low, read, received low read⟩
  | failed name message =>
    by_cases known : name ∈ transportFailures
    · exact .inr ⟨_, .lost known message, unreceived (.lost known message)⟩
    · exact .inr ⟨_, .other known message, unreceived (.other known message)⟩

theorem receiveOk {reply : ServerReply} {v : Value} : receive reply = .ok v ↔
    ∃ status octets, reply = .answered status octets ∧ status < 400 ∧
      Json.readOctets? octets = some v := by
  constructor
  · intro ok
    rcases receiveOutcome reply with ⟨status, octets, w, same, low, read, found⟩ | ⟨f, -, failed⟩
    · cases found.symm.trans ok
      exact ⟨status, octets, same, low, read⟩
    · cases failed.symm.trans ok
  · rintro ⟨status, octets, rfl, low, read⟩
    exact received low read

theorem receiveError {reply : ServerReply} {f : Fault} :
    receive reply = .error f ↔ Unreceived reply f := by
  refine ⟨fun error => ?_, unreceived⟩
  rcases receiveOutcome reply with ⟨_, _, _, -, -, -, found⟩ | ⟨g, why, failed⟩
  · cases found.symm.trans error
  · cases failed.symm.trans error
    exact why

theorem headersSent {headers : List (String × Value)} {sent : List (String × String)}
    (all : sentHeaders headers = .ok sent) :
    List.Forall₂ (fun h s => s.1 = h.1 ∧ h.2.asText? = some s.2) headers sent := by
  induction headers generalizing sent with
  | nil =>
    cases all
    exact .nil
  | cons h rest ih =>
    obtain ⟨key, value⟩ := h
    obtain ⟨name, named, all⟩ := bindOk.mp all
    have kept {s t : String} (ok : headerText s = .ok t) : t = s := by
      unfold headerText at ok
      split at ok <;> cases ok
      rfl
    split at all
    · cases all
    · next s told =>
      obtain ⟨text, spelled, all⟩ := bindOk.mp all
      obtain ⟨others, sentOthers, done⟩ := bindOk.mp all
      cases done
      exact .cons ⟨kept named, by rw [told, kept spelled]⟩ (ih sentOthers)

theorem usualCreated (settings : Settings) :
    create settings .null .null = .ok (usual settings) := rfl

theorem usualExchange (settings : Settings) (reply : ServerReply) :
    (usual settings).exchange reply = (some [("Accept", "application/json")], receive reply) := rfl

end Client

def RemoteSource.Networked (s : RemoteSource) (settings : Settings)
    (replyTo : String → ServerReply) : Prop :=
  s.transport = (Connection.network replyTo).transport settings

theorem networkOutcome {s : RemoteSource} {settings : Settings} {replyTo : String → ServerReply}
    (networked : s.Networked settings replyTo) {r : Request} {url : String}
    (asked : OData.requestUrl s.version s.url r = .ok url) :
    (s.resolve r).outcome = s.delivered (Client.receive (replyTo url)) := by
  rw [remoteOutcome asked, networked]
  rfl

theorem networkFailed {s : RemoteSource} {settings : Settings} {replyTo : String → ServerReply}
    (networked : s.Networked settings replyTo) {r : Request} {url : String}
    (asked : OData.requestUrl s.version s.url r = .ok url) {f : Fault}
    (why : Client.Unreceived (replyTo url) f) : (s.resolve r).outcome = .error f.escaped := by
  rw [networkOutcome networked asked, Client.unreceived why]
  rfl

namespace Service

theorem refusedQueryAnswered {s : Server} {name : String} {source : RemoteSource}
    (known : s.sources.find? (trimmed name) = some (.remote source)) {settings : Settings}
    {replyTo : String → ServerReply} (networked : source.Networked settings replyTo) {r : Request}
    {url : String} (asked : OData.requestUrl source.version source.url r = .ok url)
    {status : ℕ} {octets : List ℕ} (reply : replyTo url = .answered status octets)
    (high : 400 ≤ status) :
    (s.answerQuery name r).response =
        some (.detail 502 ("OData endpoint returned status " ++ ofNat status)) ∧
      (s.answerQuery name r).trail = ⟨some name, some "odata", none, some "TransportError"⟩ := by
  have why : Client.Unreceived (replyTo url) (.refused status) := reply ▸ .refused high octets
  have failed : (source.resolve r).outcome = .error (.refused status) := by
    rw [networkFailed networked asked why]
    rfl
  exact failedAnswered known failed

end Service
end TableQuery
