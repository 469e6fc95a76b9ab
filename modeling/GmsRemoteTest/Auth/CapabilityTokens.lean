import GmsRemoteTest.Auth.Principals
import GmsRemoteTest.Lib.Base64

/-! Capability tokens: five fields in URL-safe Base64 and a digest over them, joined by dots. Nothing is assumed of
`mac`, the HMAC-SHA-256 under the application key: what is proved is that a minted token is read back as its principal.
-/
namespace GmsRemoteTest.Auth
open Text

def capabilityTokenPrefix : String := "gmscap_v1_"

def principalStart : String := "automation:"

def utf8 (text : String) : List UInt8 := text.toByteArray.data.toList

def ofUtf8 (bytes : List UInt8) : Option String := String.fromUTF8? ⟨bytes.toArray⟩

def isAscii (text : String) : Bool := text.toList.all fun c => c.toNat < 128

def encodeField (value : String) : String := String.ofList (Base64.encode (utf8 value))

def decodeField (value : String) : Option String :=
  if isAscii value then (Base64.decode value.toList).bind ofUtf8 else none

def hexdigest (bytes : List UInt8) : String :=
  String.ofList (bytes.flatMap fun byte => [Json.hexDigit (byte.toNat / 16),Json.hexDigit (byte.toNat % 16)])

def grouped : List Char → Bool
  | [] => false
  | [c] => c.isDigit
  | c :: d :: rest => c.isDigit && (if d = '_' then grouped rest else grouped (d :: rest))

def intOf (text : String) : Option Int :=
  let chars := (strip text).toList
  let sign := chars.head?
  let digits := if sign = some '-' ∨ sign = some '+' then chars.drop 1 else chars
  if grouped digits then
    let size : Int := Nat.ofDigitChars 10 (digits.filter (· ≠ '_')) 0
    some (if sign = some '-' then -size else size)
  else none

def nameOf : Json.Value → Option String
  | .string name => some name
  | _ => none

section
variable (mac : List UInt8 → List UInt8)

def sign (payload : String) : String := hexdigest (mac (utf8 payload))

def tokenFields (principal : CurrentUser) (expires : Nat) (nonce : String) : List String :=
  [encodeField (toString expires),encodeField nonce,encodeField principal.id,encodeField principal.resourceOwnerId,
    encodeField (String.ofList (Json.dumps (sorted principal.extraPermissions)))]

/-- `int(time.time()) + max(60, int(ttl_seconds))`. -/
def expiry (now : Nat) (ttlSeconds : Int) : Nat := now + (max 60 ttlSeconds).toNat

def mintCapabilityToken (principal : CurrentUser) (now : Nat) (ttlSeconds : Int) (nonce : String) : Except String String :=
  if ¬ startsWith principalStart principal.id then .error "capability tokens can only be minted for automation principals"
  else if principal.resourceOwnerId = "" then .error "capability tokens require the creating account (resource owner)"
  else
    let payload := join '.' (tokenFields principal (expiry now ttlSeconds) nonce)
    .ok (capabilityTokenPrefix ++ (payload ++ "." ++ sign mac payload))

def readPrincipal (expiresRaw principalId ownerId capabilitiesRaw : String) (now : Nat) : Option CurrentUser :=
  match intOf expiresRaw with
  | none => none
  | some expires =>
    if expires < now then none
    else if ¬ startsWith principalStart principalId ∨ ownerId = "" then none
    else match Json.loads capabilitiesRaw.toList with
      | some (.array items) =>
        some (automationAuthority (String.ofList (principalId.toList.drop principalStart.length)) ownerId (items.filterMap nameOf))
      | _ => none

/-- `none` is an anonymous request; comparing with a digest that is not ASCII raises. -/
def verifyCapabilityToken (token : String) (now : Nat) : Except String (Option CurrentUser) :=
  if ¬ startsWith capabilityTokenPrefix token then .ok none
  else match split '.' (String.ofList (token.toList.drop capabilityTokenPrefix.length)) with
    | [first,second,third,fourth,fifth,digest] =>
      if ¬ isAscii digest then .error "comparing strings with non-ASCII characters is not supported"
      else if sign mac (join '.' [first,second,third,fourth,fifth]) ≠ digest then .ok none
      else match decodeField first, decodeField second, decodeField third, decodeField fourth, decodeField fifth with
        | some expiresRaw, some _, some principalId, some ownerId, some capabilitiesRaw =>
          .ok (readPrincipal expiresRaw principalId ownerId capabilitiesRaw now)
        | _, _, _, _, _ => .ok none
    | _ => .ok none

end

theorem ofUtf8_utf8 (text : String) : ofUtf8 (utf8 text) = some text := by
  unfold ofUtf8 utf8
  rw [Array.toArray_toList]
  exact dif_pos text.isValidUTF8

theorem alphabet_ascii {c : Char} (member : c ∈ Base64.alphabet) : c.toNat < 128 ∧ c ≠ '.' := by
  have all : (Base64.alphabet.all fun c => decide (c.toNat < 128) && c != '.') = true := by decide +kernel
  simpa using List.all_eq_true.mp all c member

theorem decodeField_encodeField (value : String) : decodeField (encodeField value) = some value := by
  have ascii : isAscii (encodeField value) = true := by
    unfold isAscii encodeField
    rw [String.toList_ofList,List.all_eq_true]
    intro c member
    simpa using (alphabet_ascii (Base64.encode_mem _ c member)).1
  unfold decodeField
  rw [if_pos ascii,encodeField,String.toList_ofList,Base64.decode_encode]
  exact ofUtf8_utf8 value

theorem encodeField_dotless (value : String) : '.' ∉ (encodeField value).toList := by
  unfold encodeField
  rw [String.toList_ofList]
  intro member
  exact (alphabet_ascii (Base64.encode_mem _ _ member)).2 rfl

theorem hexDigit_ascii : ∀ n < 16, (Json.hexDigit n).toNat < 128 ∧ Json.hexDigit n ≠ '.' := by decide

theorem hexdigest_ascii (bytes : List UInt8) : ∀ c ∈ (hexdigest bytes).toList, c.toNat < 128 ∧ c ≠ '.' := by
  intro c member
  unfold hexdigest at member
  rw [String.toList_ofList,List.mem_flatMap] at member
  obtain ⟨byte,_,digit⟩ := member
  have bound := byte.toNat_lt
  simp only [List.mem_cons,List.not_mem_nil,or_false] at digit
  rcases digit with rfl | rfl
  · exact hexDigit_ascii _ (by omega)
  · exact hexDigit_ascii _ (by omega)

theorem grouped_digits {digits : List Char} (nonempty : digits ≠ []) (all : ∀ c ∈ digits, c.isDigit = true) : grouped digits = true := by
  induction digits with
  | nil => exact absurd rfl nonempty
  | cons c digits ih =>
    obtain ⟨first,rest⟩ := List.forall_mem_cons.mp all
    cases digits with
    | nil => exact first
    | cons d digits =>
      have plain : d ≠ '_' := by
        rintro rfl
        exact absurd (rest '_' (List.mem_cons_self ..)) (by decide)
      rw [grouped,if_neg plain,first,Bool.true_and]
      exact ih (List.cons_ne_nil d digits) rest

theorem digit_solid {c : Char} (digit : c.isDigit = true) : isSpace c = false := by
  have bounds : 48 ≤ c.toNat ∧ c.toNat ≤ 57 := Char.isDigit_iff_toNat.mp digit
  simp only [isSpace,Bool.or_eq_false_iff,Bool.and_eq_false_iff,decide_eq_false_iff_not,beq_eq_false_iff_ne]
  omega

theorem intOf_toString (n : Nat) : intOf (toString n) = some (n : Int) := by
  have digits : (toString n).toList = Nat.toDigits 10 n := Nat.toList_repr
  have all : ∀ c ∈ Nat.toDigits 10 n, c.isDigit = true := fun c => Nat.isDigit_of_mem_toDigits (by decide) (by decide)
  have solid : Solid (toString n) := by
    intro c member
    rw [digits] at member
    exact digit_solid (all c member)
  have unsigned : ¬ ((Nat.toDigits 10 n).head? = some '-' ∨ (Nat.toDigits 10 n).head? = some '+') := by
    rintro (minus | plus)
    · exact absurd (all '-' (List.mem_of_head? minus)) (by decide)
    · exact absurd (all '+' (List.mem_of_head? plus)) (by decide)
  have whole : (Nat.toDigits 10 n).filter (· ≠ '_') = Nat.toDigits 10 n := by
    rw [List.filter_eq_self]
    intro c member
    have apart : c ≠ '_' := by
      rintro rfl
      exact absurd (all '_' member) (by decide)
    simpa using apart
  unfold intOf
  rw [solid.strip_eq,digits]
  simp only [if_neg unsigned,whole,grouped_digits Nat.toDigits_ne_nil all,if_true,Nat.ofDigitChars_ten_toDigits]
  rw [if_neg fun minus => unsigned (.inl minus)]

theorem startsWith_append (start rest : String) : startsWith start (start ++ rest) = true := by
  unfold startsWith
  rw [String.toList_append,List.isPrefixOf_iff_prefix]
  exact List.prefix_append ..

theorem drop_append (start rest : String) : String.ofList ((start ++ rest).toList.drop start.length) = rest := by
  apply String.toList_inj.mp
  rw [String.toList_ofList,String.toList_append,← String.length_toList,List.drop_left]

theorem filterMap_nameOf (names : List String) : (names.map Json.Value.string).filterMap nameOf = names := by
  rw [List.filterMap_map]
  exact List.filterMap_some

section
variable (runId createdBy : String) (granted : List String)

theorem automationAuthority_owned : (automationAuthority runId createdBy granted).resourceOwnerId ≠ "" := by
  change orElse createdBy ("automation:" ++ runId) ≠ ""
  unfold orElse
  split
  · exact append_ne_empty _ _ (by decide)
  · assumption

theorem automationAuthority_rebuild :
    automationAuthority runId (automationAuthority runId createdBy granted).resourceOwnerId
      (automationAuthority runId createdBy granted).extraPermissions = automationAuthority runId createdBy granted := by
  have owner : orElse (orElse createdBy ("automation:" ++ runId)) ("automation:" ++ runId) = orElse createdBy ("automation:" ++ runId) := by
    by_cases none : createdBy = ""
    · have named : "automation:" ++ runId ≠ "" := append_ne_empty _ _ (by decide)
      simp [orElse,none,named]
    · simp [orElse,none]
  have permissions := automationAuthority_again runId createdBy granted
  unfold automationAuthority CurrentUser.init at permissions ⊢
  simp only at permissions ⊢
  rw [permissions,owner]

theorem readPrincipal_fields (now expires : Nat) :
    let principal := automationAuthority runId createdBy granted
    readPrincipal (toString expires) principal.id principal.resourceOwnerId
      (String.ofList (Json.dumps (sorted principal.extraPermissions))) now = if now ≤ expires then some principal else none := by
  intro principal
  have id : principal.id = principalStart ++ runId := rfl
  have owned : principal.resourceOwnerId ≠ "" := automationAuthority_owned runId createdBy granted
  have ordered : sorted principal.extraPermissions = principal.extraPermissions := sorted_frozenset _
  have names : Json.loads (Json.dumps principal.extraPermissions) = some (.array (principal.extraPermissions.map .string)) :=
    Json.loads_dumps _
  unfold readPrincipal
  rw [intOf_toString,id,ordered,String.toList_ofList]
  by_cases early : now ≤ expires
  · simp only [startsWith_append,owned,not_true_eq_false,or_self,if_false,Int.ofNat_lt,Nat.not_lt.mpr early,if_pos early]
    rw [names]
    simp only [filterMap_nameOf,drop_append]
    exact congrArg some (automationAuthority_rebuild runId createdBy granted)
  · simp only [Int.ofNat_lt,Nat.lt_of_not_le early,if_true,if_neg early]

variable (mac : List UInt8 → List UInt8)

theorem sign_clean (payload : String) : isAscii (sign mac payload) = true ∧ '.' ∉ (sign mac payload).toList := by
  refine ⟨?_,fun member => (hexdigest_ascii _ '.' member).2 rfl⟩
  unfold isAscii
  rw [List.all_eq_true]
  intro c member
  simpa using (hexdigest_ascii _ c member).1

theorem tokenFields_clean (principal : CurrentUser) (expires : Nat) (nonce : String) :
    ∀ field ∈ tokenFields principal expires nonce, '.' ∉ field.toList := by
  intro field member
  simp only [tokenFields,List.mem_cons,List.not_mem_nil,or_false] at member
  rcases member with rfl | rfl | rfl | rfl | rfl <;> exact encodeField_dotless _

theorem mint_authority (now : Nat) (ttlSeconds : Int) (nonce : String) :
    let fields := tokenFields (automationAuthority runId createdBy granted) (expiry now ttlSeconds) nonce
    mintCapabilityToken mac (automationAuthority runId createdBy granted) now ttlSeconds nonce =
      .ok (capabilityTokenPrefix ++ join '.' (fields++[sign mac (join '.' fields)])) := by
  intro fields
  have started : startsWith principalStart (automationAuthority runId createdBy granted).id = true := startsWith_append ..
  have owned := automationAuthority_owned runId createdBy granted
  unfold mintCapabilityToken
  have dotted : join '.' (fields++[sign mac (join '.' fields)]) = join '.' fields ++ "." ++ sign mac (join '.' fields) :=
    join_concat rfl (List.cons_ne_nil _ _) _
  rw [if_neg (not_not.mpr started),if_neg owned,dotted]

theorem verify_mint {now : Nat} {ttlSeconds : Int} {nonce token : String}
    (minted : mintCapabilityToken mac (automationAuthority runId createdBy granted) now ttlSeconds nonce = .ok token) (later : Nat) :
    verifyCapabilityToken mac token later =
      .ok (if later ≤ expiry now ttlSeconds then some (automationAuthority runId createdBy granted) else none) := by
  rw [mint_authority] at minted
  obtain rfl := Except.ok.inj minted
  let fields := tokenFields (automationAuthority runId createdBy granted) (expiry now ttlSeconds) nonce
  have signed := sign_clean mac (join '.' fields)
  have pieces : split '.' (join '.' (fields++[sign mac (join '.' fields)])) = fields++[sign mac (join '.' fields)] := by
    apply split_join
    · intro part member
      rcases List.mem_append.mp member with field | digest
      · exact tokenFields_clean _ _ _ part field
      · rw [List.mem_singleton.mp digest]
        exact signed.2
    · exact List.append_ne_nil_of_left_ne_nil (List.cons_ne_nil _ _) _
  have read := readPrincipal_fields runId createdBy granted later (expiry now ttlSeconds)
  unfold verifyCapabilityToken
  rw [if_neg (not_not.mpr (startsWith_append ..)),drop_append,pieces]
  simp only [fields,tokenFields,List.cons_append,List.nil_append] at signed ⊢
  rw [if_neg (not_not.mpr signed.1),if_neg (not_not.mpr rfl)]
  simp only [decodeField_encodeField]
  exact congrArg Except.ok read

end

end GmsRemoteTest.Auth
