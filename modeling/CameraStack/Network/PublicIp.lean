/-
# The public address of the node

The operator lets the node find its own public address, and sets it as the address that Janus
advertises.  A STUN server answers with a datagram; where no answer comes two web services are
asked for a text.  The header of the datagram is read only as far as its type and its length:
nobody checks who sent it.
-/

import CameraStack.Lib.Attributes
import CameraStack.Lib.PyNumber
import CameraStack.Lib.Setting

namespace CameraStack.Network

open CameraStack.Lib CameraStack.Lib.Attributes

/-! ## The STUN answer -/

/-- `struct.error`: there are too few bytes to unpack. -/
inductive StructError
  | tooShort
  deriving DecidableEq

/-- `magic_cookie`. -/
def magicCookie : BitVec 32 := 0x2112A442#32

/-- `struct.unpack("!I", …)`. -/
def unpack32 (a b c d : UInt8) : BitVec 32 :=
  BitVec.ofNat 32 (65536 * unpack16 a b + unpack16 c d)

/-- `socket.inet_ntoa`. -/
def inetNtoa (ip : BitVec 32) : Text :=
  JsonValue.digitsOf (ip.extractLsb' 24 8).toNat ++
    '.' :: (JsonValue.digitsOf (ip.extractLsb' 16 8).toNat ++
      '.' :: (JsonValue.digitsOf (ip.extractLsb' 8 8).toNat ++
        '.' :: JsonValue.digitsOf (ip.extractLsb' 0 8).toNat))

/-- What is made of an attribute `XOR-MAPPED-ADDRESS`, from its length and the bytes behind it. -/
def mappedAddress (attrLen : ℕ) (rest : Bytes) : Except StructError (Option Text) :=
  if attrLen < 8 then .ok none
  else
    match rest with
    | _ :: family :: _ :: _ :: more =>
        if family ≠ 1 then .ok none
        else
          match more with
          | a :: b :: c :: d :: _ => .ok (some (inetNtoa (unpack32 a b c d ^^^ magicCookie)))
          | _ => .error .tooShort
    | _ => .error .tooShort

/-- `_stun_query` from the datagram on. -/
def parseResponse (data : Bytes) : Except StructError (Option Text) :=
  match data with
  | t :: t' :: n :: n' :: rest =>
      if rest.length < 16 then .ok none
      else if unpack16 t t' ≠ 0x0101 then .ok none
      else walk (.error .tooShort) (.ok none) 0x0020 mappedAddress (unpack16 n n') (rest.drop 16)
  | _ => .ok none

/-- `_stun_query`; there may be no answer, and no more than 2048 bytes of one are taken. -/
def stunQuery : Option Bytes → Except StructError (Option Text)
  | none => .ok none
  | some datagram => parseResponse (datagram.take 2048)

/-! ## Addresses as texts -/

/-- The characters that are digits and no decimal digits, in ranges. -/
def digitRanges : List (ℕ × ℕ) :=
  [(0xb2, 0xb3), (0xb9, 0xb9), (0x1369, 0x1371), (0x19da, 0x19da), (0x2070, 0x2070),
    (0x2074, 0x2079), (0x2080, 0x2089), (0x2460, 0x2468), (0x2474, 0x247c), (0x2488, 0x2490),
    (0x24ea, 0x24ea), (0x24f5, 0x24fd), (0x24ff, 0x24ff), (0x2776, 0x277e), (0x2780, 0x2788),
    (0x278a, 0x2792), (0x10a40, 0x10a43), (0x10e60, 0x10e68), (0x11052, 0x1105a),
    (0x1f100, 0x1f10a)]

/-- `str.isdigit`. -/
def isDigitText (s : Text) : Bool :=
  s ≠ [] && s.all fun c =>
    (decimalValue c).isSome || digitRanges.any fun r => r.1 ≤ c.toNat && c.toNat ≤ r.2

/-- What becomes of a check whose `int` may raise. -/
inductive Verdict
  | accepted
  | rejected
  | raises
  deriving DecidableEq

/-- `all(p.isdigit() and 0 <= int(p) <= 255 for p in parts)`. -/
def checkParts : List Text → Verdict
  | [] => .accepted
  | p :: ps =>
      if isDigitText p then
        match intOfText p with
        | none => .raises
        | some n => if 0 ≤ n ∧ n ≤ 255 then checkParts ps else .rejected
      else .rejected

/-- The check of an IPv4 address. -/
def checkIpv4 (ip : Text) : Verdict :=
  if (ip.splitOn '.').length ≠ 4 then .rejected else checkParts (ip.splitOn '.')

/-- `_http_probe`, from the status and the text of the answer; a `ValueError` is caught. -/
def httpProbe (response : Option (ℕ × Text)) : Option Text :=
  match response with
  | none => none
  | some (status, text) =>
      if status = 200 ∧ checkIpv4 (stripChars text) = .accepted then some (stripChars text)
      else none

/-! ## Detection -/

/-- How the address was found. -/
inductive Method
  | stun
  | ifconfigMe
  | icanhazip
  | failed
  deriving DecidableEq

/-- `PublicIpResult`. -/
structure PublicIpResult where
  ip : Option Text
  method : Method
  error : Option String := none

/-- `detect`, from the answers that come; a `struct.error` is not caught. -/
def detect (datagram : Option Bytes) (ifconfigMe icanhazip : Option (ℕ × Text)) :
    Except StructError PublicIpResult :=
  match stunQuery datagram with
  | .error e => .error e
  | .ok (some ip) => .ok { ip := some ip, method := .stun }
  | .ok none =>
      match httpProbe ifconfigMe with
      | some ip => .ok { ip := some ip, method := .ifconfigMe }
      | none =>
          match httpProbe icanhazip with
          | some ip => .ok { ip := some ip, method := .icanhazip }
          | none =>
              .ok { ip := none, method := .failed
                    error := some "STUN + HTTP probes failed — set nat_1_1_mapping manually" }

/-! ## What is read of a datagram -/

theorem mappedAddress_eq_some_iff {attrLen : ℕ} {rest : Bytes} {ip : Text} :
    mappedAddress attrLen rest = .ok (some ip) ↔
      8 ≤ attrLen ∧ ∃ reserved p p' a b c d more,
        rest = [reserved, 1, p, p', a, b, c, d] ++ more ∧
          inetNtoa (unpack32 a b c d ^^^ magicCookie) = ip := by
  constructor
  · intro h
    unfold mappedAddress at h
    split at h
    · cases h
    · next hlen =>
        apply And.intro (not_lt.mp hlen)
        split at h
        · next reserved family p p' more =>
            by_cases hfamily : family = 1
            · rw [if_neg (not_not.mpr hfamily)] at h
              split at h
              · next a b c d more =>
                  use reserved, p, p', a, b, c, d, more
                  exact ⟨by rw [hfamily]; rfl, Option.some.inj (Except.ok.inj h)⟩
              · cases h
            · rw [if_pos hfamily] at h
              cases h
        · cases h
  · rintro ⟨hlen, reserved, p, p', a, b, c, d, more, rfl, rfl⟩
    unfold mappedAddress
    rw [if_neg (not_lt.mpr hlen)]
    rfl

/-- A binding response, whose header is followed by attributes and the mapped address. -/
structure BindingResponse where
  len : ℕ
  cookieAndId : Bytes
  before : List Attribute
  attrLen : ℕ
  reserved : UInt8
  port : UInt8 × UInt8
  address : BitVec 32
  after : Bytes
  len_lt : len < 65536
  header : cookieAndId.length = 16
  unmapped : ∀ a ∈ before, a.kind ≠ 0x0020
  attrLen_ge : 8 ≤ attrLen
  attrLen_lt : attrLen < 65536
  reaches : (encodeAll before).length + 4 ≤ len

/-- `struct.pack("!I", …)`. -/
def pack32 (ip : BitVec 32) : Bytes := be16 (ip.toNat / 65536) ++ be16 ip.toNat

/-- The datagram of a response: the address is masked by the cookie. -/
def BindingResponse.encode (r : BindingResponse) : Bytes :=
  be16 0x0101 ++ be16 r.len ++ r.cookieAndId ++
    (encodeAll r.before ++ (be16 0x0020 ++ be16 r.attrLen ++
      ([r.reserved, 1, r.port.1, r.port.2] ++ pack32 (r.address ^^^ magicCookie) ++ r.after)))

theorem ofNat_congr {m n : ℕ} (h : m % 256 = n % 256) : UInt8.ofNat m = UInt8.ofNat n := by
  apply UInt8.toNat_inj.mp
  rw [UInt8.toNat_ofNat', UInt8.toNat_ofNat']
  exact h

theorem pack32_unpack32 (a b c d : UInt8) : pack32 (unpack32 a b c d) = [a, b, c, d] := by
  have hhigh := unpack16_lt a b
  have hlow := unpack16_lt c d
  have hnat : (unpack32 a b c d).toNat = 65536 * unpack16 a b + unpack16 c d := by
    rw [unpack32, BitVec.toNat_ofNat]
    omega
  have hdiv : (unpack32 a b c d).toNat / 65536 = unpack16 a b := by omega
  have hmod : be16 (unpack32 a b c d).toNat = be16 (unpack16 c d) := by
    have hfirst : UInt8.ofNat ((unpack32 a b c d).toNat / 256) = UInt8.ofNat (unpack16 c d / 256) :=
      ofNat_congr (by omega)
    have hsecond : UInt8.ofNat (unpack32 a b c d).toNat = UInt8.ofNat (unpack16 c d) :=
      ofNat_congr (by omega)
    rw [be16, be16, hfirst, hsecond]
  rw [pack32, hdiv, hmod, be16_unpack16, be16_unpack16]
  rfl

theorem exists_unpack32 (ip : BitVec 32) :
    ∃ a b c d, pack32 ip = [a, b, c, d] ∧ unpack32 a b c d = ip := by
  have hlt := ip.isLt
  have hhigh : unpack16 (UInt8.ofNat (ip.toNat / 65536 / 256)) (UInt8.ofNat (ip.toNat / 65536)) =
      ip.toNat / 65536 := unpack16_be16 (by omega)
  have hlow : unpack16 (UInt8.ofNat (ip.toNat / 256)) (UInt8.ofNat ip.toNat) =
      ip.toNat % 65536 := by
    rw [unpack16, UInt8.toNat_ofNat', UInt8.toNat_ofNat']
    omega
  use UInt8.ofNat (ip.toNat / 65536 / 256), UInt8.ofNat (ip.toNat / 65536),
    UInt8.ofNat (ip.toNat / 256), UInt8.ofNat ip.toNat
  apply And.intro rfl
  rw [unpack32, hhigh, hlow, Nat.div_add_mod, BitVec.ofNat_toNat, BitVec.setWidth_eq]

theorem parseResponse_cons {t t' n n' : UInt8} {rest : Bytes} {ip : Text} :
    parseResponse (t :: t' :: n :: n' :: rest) = .ok (some ip) ↔
      16 ≤ rest.length ∧ unpack16 t t' = 0x0101 ∧
        walk (.error .tooShort) (.ok none) 0x0020 mappedAddress (unpack16 n n') (rest.drop 16) =
          .ok (some ip) := by
  rw [parseResponse]
  by_cases hshort : rest.length < 16
  · rw [if_pos hshort]
    apply iff_of_false
    · rintro ⟨⟩
    · exact fun h => absurd h.1 (not_le.mpr hshort)
  · rw [if_neg hshort, and_iff_right (not_lt.mp hshort)]
    by_cases htype : unpack16 t t' = 0x0101
    · rw [if_neg (not_not.mpr htype), and_iff_right htype]
    · rw [if_pos htype]
      apply iff_of_false
      · rintro ⟨⟩
      · exact fun h => htype h.1

/-- An address is read of a datagram exactly when it is a binding response that carries it. -/
theorem parseResponse_eq_some_iff (data : Bytes) (ip : Text) :
    parseResponse data = .ok (some ip) ↔
      ∃ r : BindingResponse, data = r.encode ∧ ip = inetNtoa r.address := by
  have hwalk := fun left rest =>
    @walk_eq_iff _ (.error .tooShort) (.ok none) 0x0020 mappedAddress (by decide)
      (Except.ok (some ip)) (fun h => by cases h) (fun h => by cases h) left rest
  constructor
  · intro h
    match data with
    | t :: t' :: n :: n' :: rest =>
        obtain ⟨hlong, htype, hfound⟩ := parseResponse_cons.mp h
        obtain ⟨as, attrLen, more, has, hattrLen, hrest, hreach, htake⟩ := (hwalk _ _).mp hfound
        obtain ⟨hge, reserved, p, p', a, b, c, d, after, rfl, rfl⟩ :=
          mappedAddress_eq_some_iff.mp htake
        use
          { len := unpack16 n n', cookieAndId := rest.take 16, before := as, attrLen, reserved
            port := (p, p'), address := unpack32 a b c d ^^^ magicCookie, after
            len_lt := unpack16_lt n n'
            header := by
              rw [List.length_take]
              omega
            unmapped := has, attrLen_ge := hge, attrLen_lt := hattrLen, reaches := hreach }
        refine ⟨?_, rfl⟩
        have hunmask : unpack32 a b c d ^^^ magicCookie ^^^ magicCookie = unpack32 a b c d := by
          rw [BitVec.xor_assoc, BitVec.xor_self, BitVec.xor_zero]
        have hsplit := List.take_append_drop 16 rest
        rw [hrest] at hsplit
        rw [BindingResponse.encode]
        dsimp only
        rw [← htype, be16_unpack16, be16_unpack16, hunmask, pack32_unpack32]
        conv_lhs => rw [← hsplit]
        simp
    | [] | [_] | [_, _] | [_, _, _] => cases h
  · rintro ⟨r, rfl, rfl⟩
    obtain ⟨a, b, c, d, hpack, hunpack⟩ := exists_unpack32 (r.address ^^^ magicCookie)
    have hencode : r.encode = UInt8.ofNat (0x0101 / 256) :: UInt8.ofNat 0x0101 ::
        UInt8.ofNat (r.len / 256) :: UInt8.ofNat r.len :: (r.cookieAndId ++
          (encodeAll r.before ++ (be16 0x0020 ++ be16 r.attrLen ++
            ([r.reserved, 1, r.port.1, r.port.2, a, b, c, d] ++ r.after)))) := by
      rw [BindingResponse.encode, hpack]
      simp [be16]
    rw [hencode, parseResponse_cons, unpack16_be16 (by decide), unpack16_be16 r.len_lt,
      ← r.header, List.drop_left, hwalk]
    have hmask : unpack32 a b c d ^^^ magicCookie = r.address := by
      rw [hunpack, BitVec.xor_assoc, BitVec.xor_self, BitVec.xor_zero]
    refine ⟨by simp, rfl, r.before, r.attrLen, _, r.unmapped, r.attrLen_lt, rfl, r.reaches, ?_⟩
    rw [mappedAddress_eq_some_iff]
    exact ⟨r.attrLen_ge, r.reserved, r.port.1, r.port.2, a, b, c, d, r.after, rfl, by rw [hmask]⟩

/-! ## What is detected can be set -/

theorem isDigitText_digits (n : ℕ) : isDigitText (JsonValue.digitsOf n) = true := by
  obtain ⟨c, cs, hcs, -⟩ := exists_digitsOf n
  have hall : (JsonValue.digitsOf n).all (fun c => (decimalValue c).isSome ||
      digitRanges.any fun r => r.1 ≤ c.toNat && c.toNat ≤ r.2) = true := by
    rw [List.all_eq_true]
    intro d hd
    rw [decimalValue_of_isDigit (isDigit_digitsOf n d hd), Option.isSome_some, Bool.true_or]
  rw [isDigitText, hall, Bool.and_true, decide_eq_true_eq, hcs]
  exact List.cons_ne_nil c cs

theorem dot_not_mem_digits (n : ℕ) : '.' ∉ JsonValue.digitsOf n := by
  intro hmem
  have hdigit := isDigit_digitsOf n '.' hmem
  cases hdigit

/-- The text of an address passes the check. -/
theorem checkIpv4_inetNtoa (ip : BitVec 32) : checkIpv4 (inetNtoa ip) = .accepted := by
  have hoctet : ∀ (start : ℕ) (ps : List Text), checkParts ps = .accepted →
      checkParts (JsonValue.digitsOf (ip.extractLsb' start 8).toNat :: ps) = .accepted := by
    intro start ps hps
    have hlt := (ip.extractLsb' start 8).isLt
    have hint := intOfText_digitsOf (hlt.trans (by decide))
    rw [checkParts, if_pos (isDigitText_digits _), hint]
    dsimp only
    rw [if_pos (by omega), hps]
  have hsplit : (inetNtoa ip).splitOn '.' =
      [JsonValue.digitsOf (ip.extractLsb' 24 8).toNat,
        JsonValue.digitsOf (ip.extractLsb' 16 8).toNat,
        JsonValue.digitsOf (ip.extractLsb' 8 8).toNat,
        JsonValue.digitsOf (ip.extractLsb' 0 8).toNat] := by
    have hpart : ∀ (n : ℕ) (cs : Text), (JsonValue.digitsOf n ++ '.' :: cs).splitOn '.' =
        JsonValue.digitsOf n :: cs.splitOn '.' := by
      intro n cs
      rw [splitOn_append (dot_not_mem_digits n), List.splitOn_cons_eq_if_modifyHead,
        beq_self_eq_true, if_pos rfl, List.modifyHead_cons, List.append_nil]
    have hlast : ∀ n : ℕ, (JsonValue.digitsOf n).splitOn '.' = [JsonValue.digitsOf n] := by
      intro n
      have happend := splitOn_append (dot_not_mem_digits n) []
      rwa [List.append_nil, List.splitOn_nil, List.modifyHead_cons, List.append_nil] at happend
    rw [inetNtoa, hpart, hpart, hpart, hlast]
  rw [checkIpv4, hsplit, if_neg (by simp)]
  exact hoctet 24 _ (hoctet 16 _ (hoctet 8 _ (hoctet 0 _ rfl)))

theorem checkIpv4_of_httpProbe {response : Option (ℕ × Text)} {ip : Text}
    (h : httpProbe response = some ip) : checkIpv4 ip = .accepted := by
  unfold httpProbe at h
  split at h
  · cases h
  · split_ifs at h with hcheck
    obtain rfl := Option.some.inj h
    exact hcheck.2

/-- An address that is detected passes the check of the request that sets it. -/
theorem checkIpv4_of_detect (datagram : Option Bytes) (ifconfigMe icanhazip : Option (ℕ × Text))
    (r : PublicIpResult) (ip : Text) (h : detect datagram ifconfigMe icanhazip = .ok r)
    (hip : r.ip = some ip) : checkIpv4 ip = .accepted := by
  unfold detect at h
  split at h
  · cases h
  · next found hstun =>
      obtain rfl := Except.ok.inj h
      obtain rfl := Option.some.inj hip
      cases datagram with
      | none => cases hstun
      | some datagram =>
          obtain ⟨response, -, rfl⟩ := (parseResponse_eq_some_iff _ _).mp hstun
          exact checkIpv4_inetNtoa response.address
  · split at h
    · next hfound =>
        obtain rfl := Except.ok.inj h
        obtain rfl := Option.some.inj hip
        exact checkIpv4_of_httpProbe hfound
    · split at h
      · next hfound =>
          obtain rfl := Except.ok.inj h
          obtain rfl := Option.some.inj hip
          exact checkIpv4_of_httpProbe hfound
      · obtain rfl := Except.ok.inj h
        cases hip

end CameraStack.Network
