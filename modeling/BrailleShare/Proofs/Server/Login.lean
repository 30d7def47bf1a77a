import BrailleShare.Proofs.Request.Encodings
import BrailleShare.Proofs.Server.Change

/-!
# The login

What the server does with a frame of a connection that has yet to log in. One packet alone lets the
connection in: an authentication that consists of the version that the server speaks and its key,
octet for octet. Every other frame is turned away with an error code and closes the connection, and
nothing but this error and a line in the log comes of it.

Main statements: the proper login is taken (`onFrame_login`), and every other frame is turned away
(`onFrame_of_waiting`).
-/

namespace BrailleShare

/-- The packet by which a client shows a key. -/
def Packet.login (key : Octets) : Packet :=
  .ofKind .auth (Octets.ofWord protocolVersion ++ key)

/-- A proper login is an authentication with the version and the key. -/
theorem Packet.eq_login_iff {p : Packet} {key : Octets} : p = login key ↔
    p.kind? = some .auth ∧ p.payload = Octets.ofWord protocolVersion ++ key := by
  constructor
  · rintro rfl
    exact ⟨kind?_ofKind .., rfl⟩
  · rintro ⟨hk, hp⟩
    obtain ⟨type, payload⟩ := p
    obtain rfl : PacketKind.auth.code = type := PacketKind.code_of_ofCode? hk
    obtain rfl : payload = _ := hp
    rfl

/-- The error code by which a frame that is no proper login is turned away: an authentication with
a version is told if the server speaks another one; all else is refused. -/
def Frame.refusalCode : Frame → ErrorCode
  | .packet p =>
    if p.kind? = some .auth ∧ 4 ≤ p.payload.length ∧
        p.payload.take 4 ≠ Octets.ofWord protocolVersion then .protocolVersion
    else .connectionRefused
  | .oversized _ _ => .connectionRefused

namespace Request

/-- An authentication that is too short for a version is the only one that cannot be read. -/
theorem decodeLogin_of_error {payload : Octets} {e : RequestError}
    (h : decodeLogin payload = .error e) : payload.length < 4 := by
  rcases payload with _ | ⟨a, _ | ⟨b, _ | ⟨d, _ | ⟨f, key⟩⟩⟩⟩
  case cons.cons.cons.cons => cases h
  all_goals simp

end Request

namespace Server

variable {σ : Type} {s : Server σ} {id : ClientId} {c : Client} {p : Packet}

/-- With the key that the server asks for a client is let in. -/
theorem logIn_login (s : Server σ) (id : ClientId) :
    s.logIn id (.login s.settings.key) = (.proceed,
      (((s.modifyClient id fun c => { c with loggedIn := true }).releaseWaiting).note
        (.loggedIn id)).send id .ack) := by
  have hkind : (Packet.login s.settings.key).kind? = some .auth := Packet.kind?_ofKind ..
  have hdecode : Request.decodeLogin (Packet.login s.settings.key).payload =
      .ok ⟨protocolVersion, s.settings.key⟩ := Request.decodeLogin_eq_ok_iff.2 rfl
  simp [logIn, hkind, hdecode]

/-- A packet that is no proper login is turned away, for the first of the reasons that there are.
How many wait is none of them. -/
theorem logIn_of_ne (id : ClientId) (h : p ≠ .login s.settings.key) :
    ∃ n, (∀ limit, n ≠ .tooManyWaiting limit) ∧
      s.logIn id p = s.turnAway id (Frame.packet p).refusalCode n := by
  simp only [logIn, Frame.refusalCode]
  by_cases hk : p.kind? = some .auth
  · rw [if_neg (not_not.2 hk)]
    cases hd : Request.decodeLogin p.payload with
    | error e =>
      have hshort := Request.decodeLogin_of_error hd
      rw [if_neg fun hlong => absurd hlong.2.1 (Nat.not_le.2 hshort)]
      exact ⟨_, by simp, rfl⟩
    | ok l =>
      have hp := Request.decodeLogin_eq_ok_iff.1 hd
      have hlong : 4 ≤ p.payload.length := by simp [hp, Request.encodeLogin]
      have hversion : p.payload.take 4 = Octets.ofWord l.version := by
        simp [hp, Request.encodeLogin, Octets.ofWord]
      dsimp only
      by_cases hv : l.version = protocolVersion
      · have hkey : l.key ≠ s.settings.key := by
          intro hkey
          refine h (Packet.eq_login_iff.2 ⟨hk, ?_⟩)
          rw [hp, Request.encodeLogin, hv, hkey]
        rw [if_neg (not_not.2 hv), if_pos hkey, if_neg fun hother => hother.2.2 (hv ▸ hversion)]
        exact ⟨_, by simp, rfl⟩
      · have hother : p.payload.take 4 ≠ Octets.ofWord protocolVersion := fun heq =>
          hv (Octets.ofWord_injective (hversion.symm.trans heq))
        rw [if_pos hv, if_pos ⟨hk, hlong, hother⟩]
        exact ⟨_, by simp, rfl⟩
  · rw [if_pos hk, if_neg fun hauth => hk hauth.1]
    exact ⟨_, by simp, rfl⟩

section driver

variable [Driver σ]

/-- The proper login lets a connection in. -/
theorem onFrame_login (hc : s.client? id = some c) (hl : c.loggedIn = false) :
    s.onFrame id (.packet (.login s.settings.key)) = (.proceed,
      (((s.modifyClient id fun c => { c with loggedIn := true }).releaseWaiting).note
        (.loggedIn id)).send id .ack) := by
  rw [← logIn_login]
  simp [onFrame, onPacket, hc, hl]

/-- Every other frame of a connection that has yet to log in is turned away, and the rest of the
server does not notice. -/
theorem onFrame_of_waiting (hc : s.client? id = some c) (hl : c.loggedIn = false) {f : Frame}
    (hf : f ≠ .packet (.login s.settings.key)) :
    ∃ n, (∀ limit, n ≠ .tooManyWaiting limit) ∧
      s.onFrame id f = s.turnAway id f.refusalCode n := by
  cases f with
  | packet p =>
    obtain ⟨n, hnotice, hn⟩ := logIn_of_ne id fun hp => hf (congrArg Frame.packet hp)
    exact ⟨n, hnotice, by simp [onFrame, onPacket, hc, hl, hn]⟩
  | oversized type size =>
    exact ⟨.oversizedLogin id size, by simp,
      by simp [onFrame, onOversized, hc, hl, Frame.refusalCode]⟩

/-- A login of a client that has logged in already is an instruction that the server does not
know. -/
theorem onFrame_of_loggedIn (hc : s.client? id = some c) (hl : c.loggedIn = true)
    (hk : p.kind? = some .auth) : s.onFrame id (.packet p) = (.proceed,
      (s.note (.requestFailed id p.type .unknownInstruction .exception)).send id
        (.exception .unknownInstruction p)) := by
  have hid := id_of_client? hc
  simp [onFrame, onPacket, hc, hl, answer, carryOut, hk, refuse, Refusal.code, ReplyStyle.ofKind,
    ReplyStyle.report, hid]

end driver

end Server

end BrailleShare
