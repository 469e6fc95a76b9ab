import GmsRemoteTest.Foundation.Text
import GmsRemoteTest.Lib.Interleaving
import GmsRemoteTest.Lib.Table

/-! The accounts of the platform, and the calls that create and change them side by side in any number of processes. A transaction is
one step; what a call reads outside of its transaction may have changed when it writes. -/
namespace GmsRemoteTest.Auth.Accounts
open Text Interleaving Runs

def ROLES : List String := ["admin","device_operator","user"]

structure Account where
  id : String
  username : String
  passwordHash : String
  role : String
  displayName : String
  disabled : Bool
  createdAt : String
  updatedAt : String
deriving DecidableEq

structure Session where
  tokenHash : String
  userId : String
  revokedAt : Option String

inductive AccountError
  | emptyUsername
  | longUsername
  | blankUsername
  | shortPassword
  | clientForm
  | unknownRole
  | takenUsername
  | initialized
  | missing
  | lastAdmin
deriving DecidableEq

def AccountError.text : AccountError → String
  | emptyUsername => "用户名不能为空"
  | longUsername => "用户名不能超过 64 个字符"
  | blankUsername => "用户名不能包含空白字符"
  | shortPassword => "密码至少需要 8 位"
  | clientForm => "客户端账号使用 SSH 凭据登录，不能设置本地密码"
  | unknownRole => "角色必须是 admin、device_operator 或 user"
  | takenUsername => "用户名已存在"
  | initialized => "系统已经完成初始化"
  | missing => "用户不存在"
  | lastAdmin => "不能停用或降级最后一个管理员"

/-- The tables, and how many calls of `create_initial_admin` have succeeded. -/
structure Store where
  accounts : List Account
  sessions : List Session
  initialAdmins : Nat

def Store.empty : Store := ⟨[],[],0⟩

def Account.Administers (account : Account) : Prop := account.role = "admin" ∧ account.disabled = false

instance : DecidablePred Account.Administers := fun _ => inferInstanceAs (Decidable (_ ∧ _))

def validateUsername (username : String) : Except AccountError String :=
  let cleaned := strip username
  if cleaned = "" then .error .emptyUsername
  else if 64 < cleaned.length then .error .longUsername
  else if cleaned.toList.any isSpace then .error .blankUsername
  else .ok cleaned

def validatePassword (password : String) : Except AccountError Unit :=
  if password.length < 8 then .error .shortPassword else .ok ()

section
variable (isIpAddress : String → Bool)

def isClientFormUsername (username : String) : Bool :=
  let cleaned := (strip username).toList
  cleaned.contains '@' && isIpAddress (String.ofList (cleaned.reverse.takeWhile (· ≠ '@')).reverse)

end

structure NewAccount where
  username : String
  password : String
  passwordHash : String
  role : String
  displayName : String
  allowClientForm : Bool
deriving DecidableEq

structure Update where
  userId : String
  role : Option String
  displayName : Option String
  disabled : Option Bool
deriving DecidableEq

namespace Store
variable (store : Store)

def insert (account : Account) : Option Store :=
  if ∃ other ∈ store.accounts, other.id = account.id ∨ other.username = account.username then none
  else some {store with accounts := store.accounts++[account]}

def createUser (isIpAddress : String → Bool) (new : NewAccount) (now : String) : Except AccountError Store :=
  match validateUsername new.username,validatePassword new.password with
  | .error error,_ => .error error
  | .ok username,password =>
    if isClientFormUsername isIpAddress username ∧ ¬new.allowClientForm then .error .clientForm
    else match password with
    | .error error => .error error
    | .ok _ =>
      if new.role ∉ ROLES then .error .unknownRole
      else match store.insert ⟨username,username,new.passwordHash,new.role,strip new.displayName,false,now,now⟩ with
      | none => .error .takenUsername
      | some stored => .ok stored

def createInitialAdmin (new : NewAccount) (now : String) : Except AccountError Store :=
  match validateUsername new.username,validatePassword new.password with
  | .error error,_ => .error error
  | _,.error error => .error error
  | .ok username,.ok _ =>
    if store.accounts ≠ [] then .error .initialized
    else .ok {store with
      accounts := [⟨username,username,new.passwordHash,"admin",strip new.displayName,false,now,now⟩]
      initialAdmins := store.initialAdmins + 1}

def fetch (userId : String) : Option Account := Table.fetch (·.id = userId) store.accounts

def RemovesAdmin (update : Update) (row : Account) : Prop :=
  row.role = "admin" ∧ ((∃ role ∈ update.role, role ≠ "admin") ∨ update.disabled = some true)

instance (update : Update) (row : Account) : Decidable (RemovesAdmin update row) := inferInstanceAs (Decidable (_ ∧ (_ ∨ _)))

def updated (update : Update) (row : Account) (now : String) : Account :=
  {row with
    role := update.role.getD row.role
    displayName := (update.displayName.map strip).getD row.displayName
    disabled := update.disabled.getD row.disabled
    updatedAt := now}

def updateUser (update : Update) (now : String) : Except AccountError Store :=
  if ∃ role ∈ update.role, role ∉ ROLES then .error .unknownRole
  else match store.fetch update.userId with
  | none => .error .missing
  | some row =>
    if RemovesAdmin update row ∧ (Table.select Account.Administers store.accounts).length ≤ 1 then .error .lastAdmin
    else .ok {store with accounts := Table.update (·.id = update.userId) (fun _ => updated update row now) store.accounts}

def writePassword (userId passwordHash now : String) : Except AccountError Store :=
  if ∃ account ∈ store.accounts, account.id = userId then .ok
    {store with accounts := Table.update (·.id = userId) (fun account => {account with passwordHash := passwordHash,updatedAt := now}) store.accounts}
  else .error .missing

def revokeUserSessions (userId now : String) : Store :=
  let sessions := Table.update (fun session => session.userId = userId ∧ session.revokedAt = none)
    (fun session => {session with revokedAt := some now}) store.sessions
  {store with sessions := sessions}

end Store

inductive Task
  | idle
  | creatingUser (new : NewAccount)
  | creatingAdmin (new : NewAccount)
  | updating (update : Update)
  | readingName (userId password passwordHash : String)
  | writingPassword (userId passwordHash : String)
  | revoking (userId : String)
  | returned
  | raised (error : AccountError)
deriving DecidableEq

section
variable (isIpAddress : String → Bool)

/-- The next transaction of a call; the answer is the time. -/
def act (store : Store) (task : Task) (now : String) : Store × Task :=
  match task with
  | .creatingUser new => match store.createUser isIpAddress new now with
    | .error error => (store,.raised error)
    | .ok stored => (stored,.returned)
  | .creatingAdmin new => match store.createInitialAdmin new now with
    | .error error => (store,.raised error)
    | .ok stored => (stored,.returned)
  | .updating update => match store.updateUser update now with
    | .error error => (store,.raised error)
    | .ok stored => (stored,if update.role.isSome ∨ update.disabled.isSome then .revoking update.userId else .returned)
  | .readingName userId password passwordHash => match validatePassword password with
    | .error error => (store,.raised error)
    | .ok _ =>
      if (store.fetch userId).any fun account => isClientFormUsername isIpAddress account.username then (store,.raised .clientForm)
      else (store,.writingPassword userId passwordHash)
  | .writingPassword userId passwordHash => match store.writePassword userId passwordHash now with
    | .error error => (store,.raised error)
    | .ok stored => (stored,.revoking userId)
  | .revoking userId => (store.revokeUserSessions userId now,.returned)
  | task => (store,task)

def Task.Begins : Task → Prop
  | creatingUser _ | creatingAdmin _ | updating _ | readingName .. => True
  | _ => False

/-- The calls beside each other; logins, logouts and expiry rewrite the sessions. -/
def service : System Store Task String (List Session) :=
  ⟨.idle,Task.Begins,act isIpAddress,fun store sessions => {store with sessions}⟩

end

/-- The ids are unique, and once an initial administrator was created there is an account that administers. -/
structure Sound (store : Store) : Prop where
  keys : (store.accounts.map (·.id)).Nodup
  once : store.initialAdmins ≤ 1
  present : store.initialAdmins = 1 → ∃ account ∈ store.accounts, account.Administers

section
variable {store stored : Store}

theorem Sound.insert (sound : Sound store) {account : Account} (done : store.insert account = some stored) : Sound stored := by
  unfold Store.insert at done
  split at done
  next => cases done
  next fresh =>
    cases done
    refine ⟨Table.nodup_insert sound.keys fun other member same => fresh ⟨other,member,.inl same⟩,sound.once,fun initialized => ?_⟩
    obtain ⟨admin,member,administers⟩ := sound.present initialized
    exact ⟨admin,List.mem_append_left _ member,administers⟩

theorem Sound.createUser {isIpAddress : String → Bool} {new : NewAccount} {now : String} (sound : Sound store)
    (done : store.createUser isIpAddress new now = .ok stored) : Sound stored := by
  unfold Store.createUser at done
  split at done
  next => cases done
  next =>
    split at done
    next => cases done
    next =>
      split at done
      next => cases done
      next =>
        split at done
        next => cases done
        next =>
          split at done
          next => cases done
          next inserted =>
            cases done
            exact sound.insert inserted

theorem Sound.createInitialAdmin {new : NewAccount} {now : String} (sound : Sound store)
    (done : store.createInitialAdmin new now = .ok stored) : Sound stored := by
  unfold Store.createInitialAdmin at done
  split at done
  next => cases done
  next => cases done
  next =>
    split at done
    next => cases done
    next empty =>
      cases done
      have none : store.initialAdmins ≠ 1 := fun initialized => by
        obtain ⟨admin,member,_⟩ := sound.present initialized
        exact List.not_mem_nil (Decidable.not_not.mp empty ▸ member)
      have once := sound.once
      refine ⟨List.nodup_singleton _,?_,fun _ => ⟨_,List.mem_singleton.mpr rfl,rfl,rfl⟩⟩
      show store.initialAdmins + 1 ≤ 1
      omega

theorem another_admin {accounts : List Account} (keys : (accounts.map (·.id)).Nodup)
    (several : 1 < (Table.select Account.Administers accounts).length) (id : String) :
    ∃ account ∈ accounts, account.Administers ∧ account.id ≠ id := by
  have chosen : ∀ account ∈ Table.select Account.Administers accounts, account ∈ accounts ∧ account.Administers := fun _ member =>
    Table.mem_select.mp member
  have distinct : ((Table.select Account.Administers accounts).map (·.id)).Nodup := keys.sublist (List.filter_sublist.map _)
  generalize Table.select Account.Administers accounts = admins at several chosen distinct
  cases admins with
  | nil => cases several
  | cons first rest =>
    cases rest with
    | nil => exact absurd several (Nat.lt_irrefl 1)
    | cons second rest =>
      obtain ⟨held,administers⟩ := chosen first (List.mem_cons_self ..)
      obtain ⟨there,alsoAdministers⟩ := chosen second (List.mem_cons_of_mem _ (List.mem_cons_self ..))
      by_cases same : first.id = id
      · refine ⟨second,there,alsoAdministers,fun equal => ?_⟩
        exact (List.nodup_cons.mp distinct).1 (List.mem_map.mpr ⟨second,List.mem_cons_self ..,equal.trans same.symm⟩)
      · exact ⟨first,held,administers,same⟩

theorem updated_administers {update : Update} {row : Account} {now : String} (administers : row.Administers)
    (keeps : ¬Store.RemovesAdmin update row) : (Store.updated update row now).Administers := by
  obtain ⟨admin,enabled⟩ := administers
  have spares : ¬((∃ role ∈ update.role, role ≠ "admin") ∨ update.disabled = some true) := fun removes => keeps ⟨admin,removes⟩
  constructor
  · show update.role.getD row.role = "admin"
    cases chosen : update.role with
    | none => exact admin
    | some role => exact Decidable.not_not.mp fun other => spares (.inl ⟨role,chosen,other⟩)
  · show update.disabled.getD row.disabled = false
    cases chosen : update.disabled with
    | none => exact enabled
    | some disabled =>
      cases disabled with
      | false => rfl
      | true => exact absurd (.inr chosen) spares

theorem Sound.updateUser {update : Update} {now : String} (sound : Sound store) (done : store.updateUser update now = .ok stored) :
    Sound stored := by
  unfold Store.updateUser at done
  split at done
  next => cases done
  next =>
    split at done
    next => cases done
    next row found =>
      split at done
      next => cases done
      next allowed =>
        cases done
        have own := Table.fetch_selects found
        have held := Table.fetch_mem found
        refine ⟨?_,sound.once,fun initialized => ?_⟩
        · have same : ∀ account : Account, account.id = update.userId → (Store.updated update row now).id = account.id := fun _ chosen =>
            own.trans chosen.symm
          exact (Table.map_update _ same).symm ▸ sound.keys
        · have stays : ∀ account ∈ store.accounts, account.id ≠ update.userId →
              account ∈ Table.update (·.id = update.userId) (fun _ => Store.updated update row now) store.accounts := fun account member other =>
            Table.mem_update.mpr ⟨account,member,if_neg other⟩
          by_cases removes : Store.RemovesAdmin update row
          · have several : 1 < (Table.select Account.Administers store.accounts).length := Nat.lt_of_not_le fun few => allowed ⟨removes,few⟩
            obtain ⟨other,member,administers,different⟩ := another_admin sound.keys several update.userId
            exact ⟨other,stays other member different,administers⟩
          · obtain ⟨admin,member,administers⟩ := sound.present initialized
            by_cases same : admin.id = update.userId
            · have equal : admin = row := Table.eq_of_key sound.keys member held (same.trans own.symm)
              exact ⟨_,Table.mem_update.mpr ⟨admin,member,if_pos same⟩,updated_administers (equal ▸ administers) removes⟩
            · exact ⟨admin,stays admin member same,administers⟩

theorem Sound.writePassword {userId passwordHash now : String} (sound : Sound store)
    (done : store.writePassword userId passwordHash now = .ok stored) : Sound stored := by
  unfold Store.writePassword at done
  split at done
  next =>
    cases done
    refine ⟨?_,sound.once,fun initialized => ?_⟩
    · have same : ∀ account : Account, account.id = userId → ({account with passwordHash := passwordHash,updatedAt := now} : Account).id = account.id :=
        fun _ _ => rfl
      exact (Table.map_update _ same).symm ▸ sound.keys
    · obtain ⟨admin,member,administers⟩ := sound.present initialized
      by_cases same : admin.id = userId
      · exact ⟨_,Table.mem_update.mpr ⟨admin,member,if_pos same⟩,administers⟩
      · exact ⟨admin,Table.mem_update.mpr ⟨admin,member,if_neg same⟩,administers⟩
  next => cases done

theorem Sound.act {isIpAddress : String → Bool} (sound : Sound store) (task : Task) (now : String) :
    Sound (act isIpAddress store task now).1 := by
  cases task with
  | creatingUser new =>
    unfold Accounts.act
    dsimp only
    split
    next => exact sound
    next done => exact sound.createUser done
  | creatingAdmin new =>
    unfold Accounts.act
    dsimp only
    split
    next => exact sound
    next done => exact sound.createInitialAdmin done
  | updating update =>
    unfold Accounts.act
    dsimp only
    split
    next => exact sound
    next done => exact sound.updateUser done
  | readingName userId password passwordHash =>
    unfold Accounts.act
    dsimp only
    split
    next => exact sound
    next => split <;> exact sound
  | writingPassword userId passwordHash =>
    unfold Accounts.act
    dsimp only
    split
    next => exact sound
    next done => exact sound.writePassword done
  | revoking userId =>
    show Sound (store.revokeUserSessions userId now)
    exact ⟨sound.keys,sound.once,sound.present⟩
  | idle | returned | raised => exact sound

end

theorem service_rules (isIpAddress : String → Bool) :
    (service isIpAddress).Rules (fun _ _ _ => True) Sound (fun _ _ => True) fun _ _ => True where
  idle _ := trivial
  begins _ _ _ _ := trivial
  symm _ _ _ := trivial
  alone _ _ _ := trivial
  keeps _ task now sound _ _ := ⟨sound.act task now,trivial⟩
  others _ _ _ _ _ _ _ _ _ := ⟨trivial,trivial⟩
  outside _ _ sound := ⟨⟨sound.keys,sound.once,sound.present⟩,fun _ _ => trivial⟩

/-- However the calls interleave, at most one of them creates the initial administrator, and from then on an account administers. -/
theorem admin_remains (isIpAddress : String → Bool) {initial : Store} (keys : (initial.accounts.map (·.id)).Nodup)
    (fresh : initial.initialAdmins = 0) {world : World Store Task}
    (reached : Reached (service isIpAddress).apply ((service isIpAddress).Permitted fun _ _ _ => True)
      ((service isIpAddress).start initial) world) :
    world.shared.initialAdmins ≤ 1 ∧
      (world.shared.initialAdmins = 1 → ∃ account ∈ world.shared.accounts, account.role = "admin" ∧ account.disabled = false) := by
  have start : Sound initial := by
    refine ⟨keys,fresh ▸ Nat.zero_le 1,fun initialized => ?_⟩
    rw [fresh] at initialized
    cases initialized
  have rules := service_rules isIpAddress
  obtain ⟨_,once,present⟩ := (rules.reached (rules.start start) reached).shared
  exact ⟨once,present⟩

def demotions : World Store Task := exec (service fun _ => false).apply ((service fun _ => false).start .empty)
  [.enter 0 (.creatingAdmin ⟨"admin","strongpass1","h0","admin","",false⟩),.enter 1 (.creatingAdmin ⟨"other","strongpass1","h1","admin","",false⟩),
    .advance 0 "t0",.advance 1 "t1",.enter 0 (.creatingUser ⟨"second","strongpass1","h2","admin","",false⟩),.advance 0 "t2",
    .enter 0 (.updating ⟨"admin",some "user",none,none⟩),.enter 1 (.updating ⟨"second",none,none,some true⟩),.advance 1 "t3",.advance 0 "t4"]

theorem demotions_refused : demotions.shared.initialAdmins = 1 ∧ demotions.tasks 0 = .raised .lastAdmin ∧
    ∃ account ∈ demotions.shared.accounts, account.role = "admin" ∧ account.disabled = false := by
  have created : demotions.shared.initialAdmins = 1 := by decide +kernel
  have reached : Reached (service fun _ => false).apply ((service fun _ => false).Permitted fun _ _ _ => True)
      ((service fun _ => false).start .empty) demotions :=
    Reached.start.along _ ⟨trivial,trivial,trivial,trivial,trivial,trivial,trivial,trivial,trivial,trivial,trivial⟩
  exact ⟨created,by decide +kernel,(admin_remains (fun _ => false) (show (Store.empty.accounts.map (·.id)).Nodup from List.nodup_nil) rfl reached).2 created⟩

end GmsRemoteTest.Auth.Accounts
