import GmsRemoteTest.Lib.JsonObject

/-! The runtime configuration is kept in four files, the credentials in one of their own. Laying the four parts
over one another gives the configuration back, and no key of a credential is in the other three. -/
namespace GmsRemoteTest.RuntimeConfig
open Json

variable (lower : String → String)

def DEPLOYMENT_KEYS : List String :=
  ["ubuntu_user","ubuntu_host","local_server","use_key_auth","private_key_path","suites_path","script_path","gsi_scripts",
    "scrcpy_path","install_host_ip","install_port","static_routes","firmware_shares","ssh_port","ubuntu_port"]

def DEVICE_STATE_KEYS : List String :=
  ["usbip_devices_source","usbip_cluster_assignments","adb_proxy_assignments","usbip_network_quality_history","usbip_source_os"]

def CREDENTIAL_KEYS : List String := ["client_ssh_credentials","redmine_auth"]

def endsWith (ending text : String) : Bool := ending.toList.isSuffixOf text.toList

def removesuffix (ending text : String) : String :=
  if endsWith ending text then String.ofList (text.toList.take (text.length - ending.length)) else text

/-- `is_secret_field`; `lower` is `str.lower`. -/
def isSecretField (key : String) : Bool :=
  let name := removesuffix "_static_config" (lower key)
  if ["_file","_path","_env"].any fun ending => endsWith ending name then false
  else ["password","passwd","token","secret","api_key","authorization","ubuntu_pswd"].contains name ||
    ["_password","_passwd","_pswd","_token","_secret","_api_key","_password_encrypted","_api_key_encrypted"].any fun ending =>
      endsWith ending name

def secretKey (key : String) : Bool := CREDENTIAL_KEYS.contains key || isSecretField lower key

mutual

def containsSecret : Value → Bool
  | .object fields => fieldsContainSecret fields
  | .array items => itemsContainSecret items
  | _ => false

def fieldsContainSecret : Fields → Bool
  | [] => false
  | (key,item) :: fields => secretKey lower key || containsSecret item || fieldsContainSecret fields

def itemsContainSecret : List Value → Bool
  | [] => false
  | item :: items => containsSecret item || itemsContainSecret items

end

mutual

def extractSecrets : Fields → Fields × Fields
  | [] => ([],[])
  | (key,item) :: fields =>
    let (ordinary,secret) := if secretKey lower key then (none,some item) else extractItem item
    let (ordinaries,secrets) := extractSecrets fields
    ((ordinary.map (Prod.mk key)).toList ++ ordinaries,(secret.map (Prod.mk key)).toList ++ secrets)

def extractItem : Value → Option Value × Option Value
  | .array items => if itemsContainSecret lower items then (none,some (.array items)) else (some (.array items),none)
  | .object fields =>
    let (ordinary,secrets) := extractSecrets fields
    (some (.object ordinary),if secrets.isEmpty then none else some (.object secrets))
  | item => (some item,none)

end

mutual

def overlaySections (base : Fields) : Fields → Fields
  | [] => base
  | (key,value) :: extra => overlaySections (put key (overlayValue (base.lookup key) value) base) extra

def overlayValue (base : Option Value) : Value → Value
  | .object extra => match base with
    | some (.object inner) => .object (overlaySections inner extra)
    | _ => .object extra
  | value => value

end

inductive Partition where
  | preferences
  | deployment
  | devices
  | credentials
deriving DecidableEq

def partitions : List Partition := [.preferences,.deployment,.devices,.credentials]

def ordinarySection (key : String) : Partition :=
  if DEPLOYMENT_KEYS.contains key then .deployment else if DEVICE_STATE_KEYS.contains key then .devices else .preferences

def partitionRuntime (payload : Fields) (part : Partition) : Fields :=
  let (ordinary,credentials) := extractSecrets lower payload
  if part = .credentials then credentials else ordinary.filter fun field => ordinarySection field.1 = part

/-- What `read` combines. -/
def combine (parts : Partition → Fields) : Fields := partitions.foldl (fun combined part => overlaySections combined (parts part)) []

variable {lower}

theorem fieldsContainSecret_eq (fields : Fields) :
    fieldsContainSecret lower fields = fields.any fun field => secretKey lower field.1 || containsSecret lower field.2 := by
  induction fields with
  | nil => rfl
  | cons field fields ih =>
    obtain ⟨key,item⟩ := field
    rw [fieldsContainSecret,ih,List.any_cons]

theorem itemsContainSecret_eq (items : List Value) : itemsContainSecret lower items = items.any (containsSecret lower) := by
  induction items with
  | nil => rfl
  | cons item items ih => rw [itemsContainSecret,ih,List.any_cons]

theorem containsSecret_within {part value : Value} (within : Within part value) (clean : containsSecret lower value = false) :
    containsSecret lower part = false := by
  induction within with
  | self => exact clean
  | item member _ ih =>
    rw [containsSecret,itemsContainSecret_eq,List.any_eq_false] at clean
    exact ih (by simpa using clean _ member)
  | field member _ ih =>
    rw [containsSecret,fieldsContainSecret_eq,List.any_eq_false] at clean
    have neither := clean _ member
    rw [Bool.or_eq_true,not_or] at neither
    exact ih (by simpa using neither.2)

theorem secretKey_of_hasKey {value : Value} (clean : containsSecret lower value = false) {key : String} (has : value.HasKey key) :
    secretKey lower key = false := by
  obtain ⟨fields,within,member⟩ := has
  have inner := containsSecret_within within clean
  obtain ⟨field,listed,rfl⟩ := List.mem_map.mp member
  rw [containsSecret,fieldsContainSecret_eq,List.any_eq_false] at inner
  have neither := inner _ listed
  rw [Bool.or_eq_true,not_or] at neither
  simpa using neither.1

mutual

theorem extractSecrets_clean : ∀ fields : Fields, fieldsContainSecret lower (extractSecrets lower fields).1 = false
  | [] => rfl
  | (key,item) :: fields => by
    have rest := extractSecrets_clean fields
    have first := extractItem_clean item
    rw [extractSecrets]
    rw [fieldsContainSecret_eq] at rest ⊢
    by_cases secret : secretKey lower key
    · simpa [secret] using rest
    · cases kept : (extractItem lower item).1 with
      | none => simpa [secret,kept] using rest
      | some ordinary => simpa [secret,kept,first ordinary kept] using rest

theorem extractItem_clean : ∀ item ordinary : Value, (extractItem lower item).1 = some ordinary → containsSecret lower ordinary = false
  | .array items, ordinary, found => by
    rw [extractItem] at found
    split at found
    · cases found
    · rename_i clean
      cases found
      exact Bool.eq_false_iff.mpr clean
  | .object fields, ordinary, found => by
    rw [extractItem] at found
    cases found
    exact extractSecrets_clean fields
  | .null, _, found => by cases found; rfl
  | .bool _, _, found => by cases found; rfl
  | .number _, _, found => by cases found; rfl
  | .string _, _, found => by cases found; rfl

end

theorem partition_clean (payload : Fields) {part : Partition} (open_ : part ≠ .credentials) :
    containsSecret lower (.object (partitionRuntime lower payload part)) = false := by
  have clean := @extractSecrets_clean lower payload
  rw [fieldsContainSecret_eq,List.any_eq_false] at clean
  rw [containsSecret,fieldsContainSecret_eq,List.any_eq_false]
  intro field member
  unfold partitionRuntime at member
  dsimp only at member
  rw [if_neg open_] at member
  exact clean field (List.mem_of_mem_filter member)

variable (lower) in
def placed (key : String) (item : Value) : Option Value × Option Value :=
  if secretKey lower key then (none,some item) else extractItem lower item

theorem extractSecrets_cons (key : String) (item : Value) (fields : Fields) :
    extractSecrets lower ((key,item) :: fields) =
      (((placed lower key item).1.map (Prod.mk key)).toList ++ (extractSecrets lower fields).1,
        ((placed lower key item).2.map (Prod.mk key)).toList ++ (extractSecrets lower fields).2) := by
  rw [extractSecrets]
  rfl

theorem keys_optional (key : String) (item : Option Value) : (keys (item.map (Prod.mk key)).toList).Sublist [key] := by
  cases item with
  | none => exact List.nil_sublist _
  | some item => exact List.Sublist.refl _

theorem keys_extractSecrets (fields : Fields) :
    (keys (extractSecrets lower fields).1).Sublist (keys fields) ∧ (keys (extractSecrets lower fields).2).Sublist (keys fields) := by
  induction fields with
  | nil => exact ⟨List.Sublist.refl _,List.Sublist.refl _⟩
  | cons field fields ih =>
    obtain ⟨key,item⟩ := field
    rw [extractSecrets_cons]
    unfold keys at ih ⊢
    rw [List.map_append,List.map_append]
    exact ⟨(keys_optional key _).append ih.1,(keys_optional key _).append ih.2⟩

theorem lookup_optional (key name : String) (item : Option Value) (fields : Fields) :
    ((item.map (Prod.mk name)).toList ++ fields).lookup key = if key = name then item.or (fields.lookup key) else fields.lookup key := by
  cases item with
  | none => simp
  | some item =>
    refine (lookup_field key (name,item) fields).trans ?_
    simp

theorem lookup_extractSecrets {fields : Fields} (distinct : (keys fields).Nodup) (key : String) :
    (extractSecrets lower fields).1.lookup key = (fields.lookup key).bind (fun item => (placed lower key item).1) ∧
      (extractSecrets lower fields).2.lookup key = (fields.lookup key).bind fun item => (placed lower key item).2 := by
  induction fields with
  | nil => exact ⟨rfl,rfl⟩
  | cons field fields ih =>
    obtain ⟨name,item⟩ := field
    obtain ⟨fresh,rest⟩ := List.nodup_cons.mp distinct
    obtain ⟨ordinary,secret⟩ := ih rest
    rw [extractSecrets_cons,lookup_optional,lookup_optional,lookup_field,ordinary,secret]
    by_cases same : key = name
    · rw [same,if_pos rfl,if_pos rfl,if_pos rfl,lookup_eq_none.mpr fresh]
      simp
    · rw [if_neg same,if_neg same,if_neg same]
      exact ⟨rfl,rfl⟩

theorem overlayValue_none (value : Value) : overlayValue none value = value := by
  cases value <;> rw [overlayValue]
  all_goals simp

theorem lookup_overlaySections {extra : Fields} (distinct : (keys extra).Nodup) (base : Fields) (key : String) :
    (overlaySections base extra).lookup key =
      (extra.lookup key).elim (base.lookup key) fun value => some (overlayValue (base.lookup key) value) := by
  induction extra generalizing base with
  | nil => rfl
  | cons field extra ih =>
    obtain ⟨name,value⟩ := field
    obtain ⟨fresh,rest⟩ := List.nodup_cons.mp distinct
    rw [overlaySections,ih rest,lookup_put,lookup_field]
    by_cases same : key = name
    · rw [same,if_pos rfl,if_pos rfl,lookup_eq_none.mpr fresh]
      rfl
    · rw [if_neg same,if_neg same]

theorem nodup_overlaySections {base : Fields} (distinct : (keys base).Nodup) (extra : Fields) :
    (keys (overlaySections base extra)).Nodup := by
  induction extra generalizing base with
  | nil => exact distinct
  | cons field extra ih =>
    rw [overlaySections]
    exact ih (nodup_put distinct _)

theorem overlay_placed {key : String} {item : Value} (inner : ∀ fields, item = .object fields →
      Same (.object (overlaySections (extractSecrets lower fields).1 (extractSecrets lower fields).2)) item) :
    Option.Rel Same ((placed lower key item).2.elim (placed lower key item).1 fun value =>
      some (overlayValue (placed lower key item).1 value)) (some item) := by
  unfold placed
  split
  · exact .some (by rw [overlayValue_none]; exact .refl item)
  · cases item with
    | object fields =>
      have whole := inner fields rfl
      rw [extractItem]
      dsimp only
      cases secrets : (extractSecrets lower fields).2 with
      | nil =>
        rw [secrets] at whole
        exact .some whole
      | cons first rest =>
        rw [secrets] at whole
        refine .some ?_
        rw [overlayValue]
        exact whole
    | array items =>
      rw [extractItem]
      split
      · exact .some (by rw [overlayValue_none]; exact .refl _)
      · exact .some (.refl _)
    | _ => exact .some (.refl _)

theorem overlay_extractSecrets (fields : Fields) (distinct : (Value.object fields).Distinct) {base : Fields}
    (single : (keys base).Nodup) (ordinary : ∀ key, base.lookup key = (extractSecrets lower fields).1.lookup key) :
    Same (.object (overlaySections base (extractSecrets lower fields).2)) (.object fields) := by
  have sides := @lookup_extractSecrets lower fields distinct.nodup
  have sublists := @keys_extractSecrets lower fields
  refine .object (nodup_overlaySections single _) distinct.nodup fun key => ?_
  rw [lookup_overlaySections (sublists.2.nodup distinct.nodup),ordinary,(sides key).1,(sides key).2]
  cases found : fields.lookup key with
  | none => exact .none
  | some item =>
    have member := mem_of_lookup found
    refine overlay_placed fun inner same => ?_
    subst same
    exact overlay_extractSecrets inner (distinct.field member)
      ((keys_extractSecrets inner).1.nodup (distinct.field member).nodup) fun key => rfl
termination_by sizeOf fields
decreasing_by
  have smaller := List.sizeOf_lt_of_mem member
  simp only [Prod.mk.sizeOf_spec,Value.object.sizeOf_spec] at smaller
  omega

theorem lookup_filter (part : Partition) (fields : Fields) (key : String) :
    (fields.filter fun field => ordinarySection field.1 = part).lookup key =
      if ordinarySection key = part then fields.lookup key else none := by
  induction fields with
  | nil => simp
  | cons field fields ih =>
    rw [List.filter_cons,lookup_field]
    by_cases same : key = field.1
    · subst same
      by_cases here : ordinarySection field.1 = part
      · simp [here,lookup_field]
      · simp [here,ih]
    · rw [if_neg same]
      split
      · rw [lookup_field,if_neg same,ih]
      · exact ih

theorem partitionRuntime_public (payload : Fields) {part : Partition} (open_ : part ≠ .credentials) :
    partitionRuntime lower payload part = (extractSecrets lower payload).1.filter fun field => ordinarySection field.1 = part := by
  unfold partitionRuntime
  dsimp only
  rw [if_neg open_]

variable (lower) in
def Laid (payload : Fields) (earlier : List Partition) (base : Fields) : Prop :=
  ∀ key, base.lookup key = if ordinarySection key ∈ earlier then (extractSecrets lower payload).1.lookup key else none

theorem Laid.next {payload base : Fields} {earlier : List Partition} (laid : Laid lower payload earlier base)
    (distinct : (keys payload).Nodup) (part : Partition) (open_ : part ≠ .credentials) (fresh : part ∉ earlier) :
    Laid lower payload (part :: earlier) (overlaySections base (partitionRuntime lower payload part)) := by
  intro key
  have single : (keys (partitionRuntime lower payload part)).Nodup := by
    rw [partitionRuntime_public payload open_]
    exact ((List.filter_sublist.map Prod.fst).trans (keys_extractSecrets payload).1).nodup distinct
  rw [lookup_overlaySections single,laid,partitionRuntime_public payload open_,lookup_filter]
  by_cases here : ordinarySection key = part
  · rw [if_pos here,if_neg (here ▸ fresh),if_pos (here ▸ List.mem_cons_self ..)]
    cases (extractSecrets lower payload).1.lookup key with
    | none => rfl
    | some value => exact congrArg some (overlayValue_none value)
  · rw [if_neg here]
    simp [here]

theorem combine_partitionRuntime {payload : Fields} (distinct : (Value.object payload).Distinct) :
    Same (.object (combine (partitionRuntime lower payload))) (.object payload) := by
  have none : Laid lower payload [] [] := fun key => rfl
  have preferences := none.next distinct.nodup .preferences (by decide) (by decide)
  have deployment := preferences.next distinct.nodup .deployment (by decide) (by decide)
  have devices := deployment.next distinct.nodup .devices (by decide) (by decide)
  have empty : (keys []).Nodup := List.nodup_nil
  refine overlay_extractSecrets payload distinct
    (nodup_overlaySections (nodup_overlaySections (nodup_overlaySections empty _) _) _) fun key => ?_
  refine (devices key).trans (if_pos ?_)
  unfold ordinarySection
  split
  · decide
  · split <;> decide

end GmsRemoteTest.RuntimeConfig
