import GmsRemoteTest.Cluster.ArtifactRetention

/-! The shapes that an artifact goes through, and what the files, the row and the journal are in each of them. -/
namespace GmsRemoteTest.ArtifactRetention

inductive Shape
  | kept (path : Path)
  | copied (operation : ℕ)
  | switched (operation : ℕ)
  | moved (operation : ℕ) (old : Path)
  | dropped (operation : ℕ)
  | gone

namespace Shape

def path (id : ℕ) : Shape → Option Path
  | kept path => some path
  | copied _ => some (.log id)
  | switched operation => some (.gz operation)
  | moved _ old => some old
  | dropped _ => none
  | gone => none

/-- The operation whose entry has to stay pending. -/
def owner : Shape → Option (ℕ × Operation)
  | kept _ => none
  | copied operation => some (operation,.archive)
  | switched operation => some (operation,.archive)
  | moved operation _ => some (operation,.delete)
  | dropped operation => some (operation,.delete)
  | gone => none

def Names (filename : String) : Shape → Prop
  | copied _ => filename ∈ logNames
  | _ => True

def Past (id operation : ℕ) : Shape → Prop
  | kept path => path ≠ .log id
  | copied _ => False
  | switched other => other = operation
  | moved other old => other ≠ operation ∧ old ≠ .log id
  | dropped other => other ≠ operation
  | gone => True

/-- What an operation, or a recovery of it, makes of a shape. -/
inductive Next (id operation : ℕ) : Shape → Shape → Prop
  | copy : Next id operation (kept (.log id)) (copied operation)
  | move (path : Path) : Next id operation (kept path) (moved operation path)
  | switch : Next id operation (copied operation) (switched operation)
  | drop (old : Path) : Next id operation (moved operation old) (dropped operation)
  | clear : Next id operation (switched operation) (kept (.gz operation))
  | empty : Next id operation (dropped operation) gone
  | discard : Next id operation (copied operation) (kept (.log id))
  | restore (old : Path) : Next id operation (moved operation old) (kept old)

def Mentions (operation : ℕ) : Shape → Prop
  | kept path => path = .gz operation
  | copied other => other = operation
  | switched other => other = operation
  | moved other old => other = operation ∨ old = .gz operation
  | dropped other => other = operation
  | gone => False

variable {id operation other : ℕ} {first second : Shape}

section
variable (next : Next id operation first second)
include next

theorem Next.past (past : first.Past id other)
    (mine : operation = other → ∃ kind, first.owner = some (other,kind)) : second.Past id other := by
  cases next <;> simp_all [Past,owner]

theorem Next.mentions (mentions : second.Mentions other) : first.Mentions other ∨ other = operation := by
  cases next <;> simp_all [Mentions,eq_comm]
  exact mentions.symm

theorem Next.owner_eq {kind : Operation} (owned : first.owner = some (other,kind)) : other = operation := by
  cases next <;> simp_all [owner]

theorem Next.becomes_owner {kind : Operation} (owner : second.owner = some (other,kind)) :
    other = operation := by
  cases next <;> simp_all [Shape.owner]

theorem Next.ended (ended : first = dropped other ∨ first = gone) :
    second = dropped other ∨ second = gone := by
  cases next <;> simp_all

end

theorem Past.unowned (past : first.Past id operation) : first = switched operation ∨ ∀ kind, first.owner ≠ some (operation,kind) := by
  cases first <;> simp_all [Past,owner]

theorem mentions_owner {kind : Operation} (owner : first.owner = some (operation,kind)) : first.Mentions operation := by
  cases first <;> simp_all [Shape.owner,Mentions]

end Shape

def Belongs (journal : ℕ → Option Entry) (id : ℕ) (path : Path) : Prop :=
  path = .log id ∨ ∃ operation entry, journal operation = some entry ∧ entry.artifact = id ∧ path = entry.operation.target operation

theorem target_inj {first second : Operation} {m n : ℕ} (same : first.target m = second.target n) : first = second ∧ m = n := by
  cases first <;> cases second <;> cases same <;> exact ⟨rfl,rfl⟩

theorem target_ne_log (operation : Operation) (m id : ℕ) : operation.target m ≠ .log id := by
  cases operation <;> exact nofun

theorem target_ne_temp (operation : Operation) (m n : ℕ) : operation.target m ≠ .temp n := by
  cases operation <;> exact nofun

theorem Belongs.unique {journal : ℕ → Option Entry} {first second : ℕ} {path : Path} (one : Belongs journal first path)
    (two : Belongs journal second path) : first = second := by
  obtain rfl | ⟨m,entry,found,its,rfl⟩ := one
  · obtain same | ⟨n,entry,_,_,same⟩ := two
    · exact Path.log.inj same
    · exact absurd same.symm (target_ne_log _ _ _)
  · obtain same | ⟨n,entry',found',its',same⟩ := two
    · exact absurd same (target_ne_log _ _ _)
    · obtain ⟨_,rfl⟩ := target_inj same
      rw [found] at found'
      cases found'
      exact its.symm.trans its'

theorem Belongs.ne_temp {journal : ℕ → Option Entry} {id : ℕ} {path : Path} (belongs : Belongs journal id path) (n : ℕ) : path ≠ .temp n := by
  obtain rfl | ⟨m,entry,_,_,rfl⟩ := belongs
  · exact nofun
  · exact target_ne_temp _ _ _

section
variable {codec : Codec} (start : Start codec)

/-- The files of an artifact, when `bytes` is the content of its row. -/
def Shape.files (id : ℕ) (bytes : Bytes) : Shape → Path → Option Bytes
  | kept path => Function.update (fun _ => none) path (some bytes)
  | copied operation => Function.update (Function.update (fun _ => none) (.gz operation) (some (codec.gzip operation bytes))) (.log id) (some bytes)
  | switched operation => Function.update (Function.update (fun _ => none) (.gz operation) (some bytes)) (.log id) (start.files (.log id))
  | moved operation _ => Function.update (fun _ => none) (.trash operation) (some bytes)
  | dropped operation => Function.update (fun _ => none) (.trash operation) (some bytes)
  | gone => fun _ => none

variable {start} in
theorem Shape.files_past {shape : Shape} {id operation : ℕ} {bytes : Bytes} (past : shape.Past id operation) (apart : shape ≠ .switched operation) :
    shape.files start id bytes (.log id) = none := by
  cases shape <;> simp_all [Past,Shape.files,eq_comm]

structure Good (id : ℕ) (row : Artifact) (content : Bytes) : Prop where
  digest : codec.sha256 content = row.sha256
  first : row.path = .log id → start.files (.log id) = some content
  zipped : ∀ operation, row.path = .gz operation →
    row.filename ∉ logNames ∧ ∃ original, start.files (.log id) = some original ∧ content = codec.gzip operation original

structure Holds (journal : ℕ → Option Entry) (files : Path → Option Bytes) (row : Option Artifact) (id : ℕ) (shape : Shape) (bytes : Bytes) :
    Prop where
  rowless : shape.path id = none → row = none
  its : ∀ path, shape.path id = some path → ∃ item, row = some item ∧ item.path = path ∧ Good start id item bytes ∧ shape.Names item.filename
  content : ∀ path, Belongs journal id path → files path = shape.files start id bytes path
  owned : ∀ operation kind, shape.owner = some (operation,kind) → ∃ entry, journal operation = some entry ∧ entry.status = .pending ∧
    entry.artifact = id ∧ entry.operation = kind ∧ ∀ old, shape = .moved operation old → entry.old = old
  known : ∀ path, shape.path id = some path → path = .log id ∨
    ∃ operation entry, path = .gz operation ∧ journal operation = some entry ∧ entry.artifact = id ∧ entry.operation = .archive

variable {start} {journal other : ℕ → Option Entry} {files files' : Path → Option Bytes} {row : Option Artifact} {id operation : ℕ} {shape : Shape}
  {bytes : Bytes}

theorem Holds.belongs (holds : Holds start journal files row id shape bytes) {path : Path} (its : shape.path id = some path) :
    Belongs journal id path := by
  obtain first | ⟨operation,entry,rfl,found,artifact,archive⟩ := holds.known path its
  · exact .inl first
  · exact .inr ⟨operation,entry,found,artifact,by rw [archive]; rfl⟩

theorem Holds.target (holds : Holds start journal files row id shape bytes) (kind : Operation) (owner : shape.owner = some (operation,kind)) :
    Belongs journal id (kind.target operation) := by
  obtain ⟨entry,found,-,artifact,rfl,-⟩ := holds.owned operation kind owner
  exact .inr ⟨operation,entry,found,artifact,rfl⟩

theorem Holds.away (holds : Holds start journal files row id shape bytes) {path : Path} (away : ¬Belongs journal id path) :
    shape.files start id bytes path = none := by
  have apart : ∀ mine, Belongs journal id mine → path ≠ mine := by
    rintro mine belongs rfl
    exact away belongs
  have log := apart _ (.inl rfl)
  cases shape with
  | kept mine => simp [Shape.files,apart mine (holds.belongs rfl)]
  | copied o => simp [Shape.files,log,apart (.gz o) (holds.target .archive rfl)]
  | switched o => simp [Shape.files,log,apart (.gz o) (holds.target .archive rfl)]
  | moved o old => simp [Shape.files,apart (.trash o) (holds.target .delete rfl)]
  | dropped o => simp [Shape.files,apart (.trash o) (holds.target .delete rfl)]
  | gone => rfl

theorem Holds.original (holds : Holds start journal files row id shape bytes) {content : Bytes} (found : files (.log id) = some content) :
    start.files (.log id) = some content := by
  rw [holds.content _ (.inl rfl)] at found
  have its := holds.its
  cases shape with
  | kept path =>
    obtain ⟨item,-,same,good,-⟩ := its path rfl
    by_cases log : path = .log id
    · subst log
      obtain rfl : bytes = content := by simpa [Shape.files] using found
      exact good.first same
    · simp [Shape.files,Ne.symm log] at found
  | copied o =>
    obtain ⟨item,-,same,good,-⟩ := its _ rfl
    obtain rfl : bytes = content := by simpa [Shape.files] using found
    exact good.first same
  | switched o => simpa [Shape.files] using found
  | moved o old => simp [Shape.files] at found
  | dropped o => simp [Shape.files] at found
  | gone => cases found

theorem Holds.log_of_name (holds : Holds start journal files row id shape bytes) {item : Artifact} (found : row = some item)
    (name : item.filename ∈ logNames) : item.path = .log id := by
  cases path : shape.path id with
  | none => cases found.symm.trans (holds.rowless path)
  | some mine =>
    obtain ⟨item',found',same,good,-⟩ := holds.its mine path
    cases found.symm.trans found'
    obtain log | ⟨operation,_,gz,-⟩ := holds.known mine path
    · exact same.trans log
    · exact absurd name (good.zipped operation (same.trans gz)).1

theorem Holds.unmentioned (holds : Holds start journal files row id shape bytes) (unwritten : journal operation = none) :
    ¬shape.Mentions operation := by
  have known := holds.known
  have owned := holds.owned
  cases shape <;> simp_all [Shape.Mentions,Shape.path,Shape.owner] <;> grind

theorem Holds.frame (holds : Holds start journal files row id shape bytes) (same : ∀ path, Belongs journal id path → files' path = files path) :
    Holds start journal files' row id shape bytes :=
  ⟨holds.rowless,holds.its,fun path belongs => (same path belongs).trans (holds.content path belongs),holds.owned,holds.known⟩

theorem Holds.rejournal (holds : Holds start journal files row id shape bytes)
    (grown : ∀ path, Belongs other id path → Belongs journal id path ∨ files path = none)
    (entries : ∀ operation entry, journal operation = some entry → ∃ entry', other operation = some entry' ∧ entry'.artifact = entry.artifact ∧
      entry'.operation = entry.operation ∧ entry'.old = entry.old ∧ ((∃ kind, shape.owner = some (operation,kind)) → entry'.status = entry.status)) :
    Holds start other files row id shape bytes := by
  refine ⟨holds.rowless,holds.its,fun path belongs => ?_,fun operation kind owner => ?_,fun path its => ?_⟩
  · by_cases before : Belongs journal id path
    · exact holds.content path before
    · exact ((grown path belongs).resolve_left before).trans (holds.away before).symm
  · obtain ⟨entry,found,pending,artifact,kind',old⟩ := holds.owned operation kind owner
    obtain ⟨entry',found',artifact',kind'',old',status⟩ := entries operation entry found
    exact ⟨entry',found',(status ⟨kind,owner⟩).trans pending,artifact'.trans artifact,kind''.trans kind',fun path same => old'.trans (old path same)⟩
  · obtain first | ⟨operation,entry,gz,found,artifact,archive⟩ := holds.known path its
    · exact .inl first
    · obtain ⟨entry',found',artifact',kind',-⟩ := entries operation entry found
      exact .inr ⟨operation,entry',gz,found',artifact'.trans artifact,kind'.trans archive⟩

def Pending (journal : ℕ → Option Entry) (operation id : ℕ) (kind : Operation) (old : Path) : Prop :=
  ∃ entry, journal operation = some entry ∧ entry.status = .pending ∧ entry.artifact = id ∧ entry.operation = kind ∧ entry.old = old

theorem Pending.belongs {kind : Operation} {old : Path} (pending : Pending journal operation id kind old) :
    Belongs journal id (kind.target operation) := by
  obtain ⟨entry,found,-,artifact,rfl,-⟩ := pending
  exact .inr ⟨operation,entry,found,artifact,rfl⟩

theorem Holds.copy (holds : Holds start journal files row id (.kept (.log id)) bytes) (pending : Pending journal operation id .archive (.log id))
    (temp : files (.temp operation) = some (codec.gzip operation bytes)) (names : ∀ item, row = some item → item.filename ∈ logNames) :
    Holds start journal (Function.update (Function.update files (.gz operation) (files (.temp operation))) (.temp operation) none) row id
      (.copied operation) bytes where
  rowless := nofun
  its path same := by
    obtain ⟨item,found,its,good,-⟩ := holds.its path same
    exact ⟨item,found,its,good,names item found⟩
  content path belongs := by
    have before := holds.content path belongs
    have apart := belongs.ne_temp operation
    by_cases gz : path = .gz operation <;> simp_all [Shape.files,Function.update_apply]
  owned _ _ := by
    rintro ⟨⟩
    obtain ⟨entry,found,status,artifact,kind,-⟩ := pending
    exact ⟨entry,found,status,artifact,kind,nofun⟩
  known path same := .inl (Option.some.inj same).symm

theorem Holds.move {path : Path} (holds : Holds start journal files row id (.kept path) bytes) (pending : Pending journal operation id .delete path) :
    Holds start journal (Function.update (Function.update files (.trash operation) (files path)) path none) row id (.moved operation path) bytes where
  rowless := nofun
  its := holds.its
  content mine belongs := by
    have before := holds.content mine belongs
    have there := holds.content path (holds.belongs rfl)
    have apart : path ≠ .trash operation := by
      obtain rfl | ⟨_,_,rfl,-⟩ := holds.known path rfl <;> exact nofun
    by_cases trash : mine = .trash operation <;> by_cases old : mine = path <;> simp_all [Shape.files,Function.update_apply]
  owned _ _ := by
    rintro ⟨⟩
    obtain ⟨entry,found,status,artifact,kind,old⟩ := pending
    exact ⟨entry,found,status,artifact,kind,fun _ same => by cases same; exact old⟩
  known := holds.known

theorem Holds.switch (holds : Holds start journal files row id (.copied operation) bytes) {item : Artifact} (found : row = some item)
    {filename checksum : String} {size : ℕ} (name : filename ∈ logNames) (digest : checksum = codec.sha256 (codec.gzip operation bytes)) :
    Holds start journal files (some (item.archived operation filename size checksum)) id (.switched operation) (codec.gzip operation bytes) := by
  obtain ⟨_,same,its,good,-⟩ := holds.its _ rfl
  cases found.symm.trans same
  have first := good.first its
  refine ⟨nofun,?_,fun path belongs => ?_,fun _ _ owner => ?_,?_⟩
  · rintro _ ⟨⟩
    refine ⟨_,rfl,rfl,⟨digest.symm,nofun,?_⟩,trivial⟩
    rintro _ ⟨⟩
    refine ⟨?_,bytes,first,rfl⟩
    show filename ++ ".gz" ∉ logNames
    obtain rfl | rfl : filename = "stdout.log" ∨ filename = "stderr.log" := by simpa [logNames] using name
    · decide
    · decide
  · have before := holds.content path belongs
    by_cases log : path = .log id <;> simp_all [Shape.files,Function.update_apply]
  · cases owner
    obtain ⟨entry,found,status,artifact,kind,-⟩ := holds.owned operation .archive rfl
    exact ⟨entry,found,status,artifact,kind,nofun⟩
  · rintro _ ⟨⟩
    obtain ⟨entry,found,-,artifact,kind,-⟩ := holds.owned operation .archive rfl
    exact .inr ⟨operation,entry,rfl,found,artifact,kind⟩

theorem Holds.drop {old : Path} (holds : Holds start journal files row id (.moved operation old) bytes) :
    Holds start journal files none id (.dropped operation) bytes where
  rowless _ := rfl
  its := nofun
  content := holds.content
  owned _ _ := by
    rintro ⟨⟩
    obtain ⟨entry,found,status,artifact,kind,-⟩ := holds.owned operation .delete rfl
    exact ⟨entry,found,status,artifact,kind,nofun⟩
  known := nofun

theorem Holds.clear (holds : Holds start journal files row id (.switched operation) bytes) :
    Holds start journal (Function.update files (.log id) none) row id (.kept (.gz operation)) bytes where
  rowless := nofun
  its := holds.its
  content path belongs := by
    have before := holds.content path belongs
    by_cases log : path = .log id <;> simp_all [Shape.files,Function.update_apply]
  owned := nofun
  known := holds.known

theorem Holds.empty (holds : Holds start journal files row id (.dropped operation) bytes) :
    Holds start journal (Function.update files (.trash operation) none) row id .gone bytes where
  rowless := holds.rowless
  its := nofun
  content path belongs := by
    have before := holds.content path belongs
    by_cases trash : path = .trash operation <;> simp_all [Shape.files]
  owned := nofun
  known := nofun

theorem Holds.discard (holds : Holds start journal files row id (.copied operation) bytes) :
    Holds start journal (Function.update files (.gz operation) none) row id (.kept (.log id)) bytes where
  rowless := nofun
  its path same := by
    obtain ⟨item,found,its,good,-⟩ := holds.its path same
    exact ⟨item,found,its,good,trivial⟩
  content path belongs := by
    have before := holds.content path belongs
    by_cases gz : path = .gz operation <;> simp_all [Shape.files,Function.update_apply]
  owned := nofun
  known := holds.known

theorem Holds.restore {old : Path} (holds : Holds start journal files row id (.moved operation old) bytes) :
    Holds start journal (Function.update (Function.update files old (files (.trash operation))) (.trash operation) none) row id (.kept old)
      bytes where
  rowless := nofun
  its := holds.its
  content path belongs := by
    have before := holds.content path belongs
    have there := holds.content _ (holds.target .delete rfl)
    have apart : old ≠ .trash operation := by
      obtain rfl | ⟨_,_,rfl,-⟩ := holds.known old rfl <;> exact nofun
    by_cases trash : path = .trash operation <;> by_cases same : path = old <;> simp_all [Shape.files,Operation.target]
  owned := nofun
  known := holds.known

end

section
variable {codec : Codec} {start : Start codec} {shape : Shape} {world : World} {operation : ℕ} {entry : Entry} {bytes : Bytes}

theorem update_none {files : Path → Option Bytes} {path : Path} (away : files path = none) : Function.update files path none = files := by
  rw [←away,Function.update_eq_self]

inductive Recovered (files : Path → Option Bytes) (id operation : ℕ) : Shape → (Path → Option Bytes) → Prop
  | discard : Recovered files id operation (.copied operation) (Function.update files (.gz operation) none)
  | clear : Recovered files id operation (.switched operation) (Function.update files (.log id) none)
  | restore (old : Path) : Recovered files id operation (.moved operation old)
      (Function.update (Function.update files old (files (.trash operation))) (.trash operation) none)
  | empty : Recovered files id operation (.dropped operation) (Function.update files (.trash operation) none)
  | idle {shape : Shape} (free : ∀ kind, shape.owner ≠ some (operation,kind)) : Recovered files id operation shape files

theorem recovered_archive (holds : Holds start world.journal world.files (world.rows entry.artifact) entry.artifact shape bytes)
    (found : world.journal operation = some entry) (kind : entry.operation = .archive) (new : entry.new = .gz operation)
    (old : entry.old = .log entry.artifact) : Recovered world.files entry.artifact operation shape (world.recovered entry) := by
  have log := holds.content _ (.inl rfl)
  have gz := holds.content (.gz operation) (.inr ⟨operation,entry,found,rfl,by rw [kind]; rfl⟩)
  have its := holds.its
  have rowless := holds.rowless
  unfold World.recovered
  rw [kind,new,old]
  dsimp only
  cases shape with
  | kept path =>
    obtain ⟨item,row,rfl,-⟩ := its path rfl
    have same : ∀ path, world.files path = none → Recovered world.files entry.artifact operation (.kept item.path)
        (Function.update world.files path none) := fun path away => by rw [update_none away]; exact .idle nofun
    split_ifs with finished there
    · refine same _ ?_
      have gz' : item.path = .gz operation := by simpa [row] using finished.1
      rw [log,gz']
      rfl
    · refine same _ ?_
      have log' : item.path = .log entry.artifact := by
        by_contra apart
        exact there (by rw [log]; simp [Shape.files,Ne.symm apart])
      rw [gz,log']
      rfl
    · exact .idle nofun
  | copied o =>
    obtain ⟨item,row,path,-⟩ := its _ rfl
    have there : world.files (.log entry.artifact) ≠ none := by rw [log]; simp [Shape.files]
    rw [if_neg (by simp [row,path]),if_pos there]
    by_cases mine : o = operation
    · subst mine
      exact .discard
    · rw [update_none (by rw [gz]; simp [Shape.files,Ne.symm mine])]
      exact .idle fun kind same => by cases same; exact mine rfl
  | switched o =>
    obtain ⟨item,row,path,good,-⟩ := its _ rfl
    obtain ⟨-,original,first,-⟩ := good.zipped o path
    have there : world.files (.log entry.artifact) ≠ none := by rw [log]; simp [Shape.files,first]
    by_cases mine : o = operation
    · subst mine
      rw [if_pos ⟨by simp [row,path],by rw [gz]; simp [Shape.files]⟩]
      exact .clear
    · rw [if_neg (by simp [row,path,mine]),if_pos there,update_none (by rw [gz]; simp [Shape.files,Ne.symm mine])]
      exact .idle fun kind same => by cases same; exact mine rfl
  | moved o path =>
    rw [if_neg (by simp [gz,Shape.files]),if_neg (by simp [log,Shape.files])]
    exact .idle fun kind' same => by
      cases same
      obtain ⟨entry',found',-,-,kind',-⟩ := holds.owned operation .delete rfl
      cases found.symm.trans found'
      cases kind.symm.trans kind'
  | dropped o =>
    rw [if_neg (by simp [gz,Shape.files]),if_neg (by simp [log,Shape.files])]
    exact .idle fun kind' same => by
      cases same
      obtain ⟨entry',found',-,-,kind',-⟩ := holds.owned operation .delete rfl
      cases found.symm.trans found'
      cases kind.symm.trans kind'
  | gone =>
    rw [if_neg (by simp [gz,Shape.files]),if_neg (by simp [log,Shape.files])]
    exact .idle nofun

theorem recovered_delete (holds : Holds start world.journal world.files (world.rows entry.artifact) entry.artifact shape bytes)
    (found : world.journal operation = some entry) (kind : entry.operation = .delete) (new : entry.new = .trash operation) :
    Recovered world.files entry.artifact operation shape (world.recovered entry) := by
  have trash := holds.content (.trash operation) (.inr ⟨operation,entry,found,rfl,by rw [kind]; rfl⟩)
  have its := holds.its
  have rowless := holds.rowless
  have foreign : ∀ kind', kind' = .archive → shape.owner ≠ some (operation,kind') := by
    rintro _ rfl same
    obtain ⟨entry',found',-,-,kind',-⟩ := holds.owned operation .archive same
    cases found.symm.trans found'
    cases kind.symm.trans kind'
  unfold World.recovered
  rw [kind,new]
  cases shape with
  | kept path =>
    obtain ⟨item,row,-⟩ := its path rfl
    have away : world.files (.trash operation) = none := by
      rw [trash]
      obtain rfl | ⟨_,_,rfl,-⟩ := holds.known path rfl <;> simp [Shape.files]
    rw [row]
    dsimp only
    rw [if_neg (by simp [away])]
    exact .idle nofun
  | copied o =>
    obtain ⟨item,row,-⟩ := its _ rfl
    rw [row]
    dsimp only
    rw [if_neg (by simp [trash,Shape.files])]
    exact .idle fun kind' same => foreign kind' (by cases same; rfl) same
  | switched o =>
    obtain ⟨item,row,-⟩ := its _ rfl
    rw [row]
    dsimp only
    rw [if_neg (by simp [trash,Shape.files])]
    exact .idle fun kind' same => foreign kind' (by cases same; rfl) same
  | moved o path =>
    obtain ⟨item,row,-⟩ := its _ rfl
    rw [row]
    dsimp only
    by_cases mine : o = operation
    · subst mine
      obtain ⟨entry',found',-,-,-,old⟩ := holds.owned o .delete rfl
      cases found.symm.trans found'
      have away : world.files path = none := by
        rw [holds.content path (holds.belongs rfl)]
        obtain rfl | ⟨_,_,rfl,-⟩ := holds.known path rfl <;> simp [Shape.files]
      rw [old path rfl,if_pos ⟨away,by rw [trash]; simp [Shape.files]⟩]
      exact .restore path
    · rw [if_neg (by simp [trash,Shape.files,Ne.symm mine])]
      exact .idle fun kind' same => by cases same; exact mine rfl
  | dropped o =>
    rw [rowless rfl]
    dsimp only
    by_cases mine : o = operation
    · subst mine
      exact .empty
    · rw [update_none (by rw [trash]; simp [Shape.files,Ne.symm mine])]
      exact .idle fun kind' same => by cases same; exact mine rfl
  | gone =>
    rw [rowless rfl]
    dsimp only
    rw [update_none trash]
    exact .idle nofun

variable {journal : ℕ → Option Entry} {files after : Path → Option Bytes} {row : Option Artifact} {id : ℕ}

theorem Recovered.holds (recovered : Recovered files id operation shape after) (holds : Holds start journal files row id shape bytes) :
    ∃ second, (second = shape ∨ Shape.Next id operation shape second ∧ ∃ kind, shape.owner = some (operation,kind)) ∧
      Holds start journal after row id second bytes ∧ ∀ kind, second.owner ≠ some (operation,kind) := by
  cases recovered with
  | discard => exact ⟨_,.inr ⟨.discard,_,rfl⟩,holds.discard,nofun⟩
  | clear => exact ⟨_,.inr ⟨.clear,_,rfl⟩,holds.clear,nofun⟩
  | restore old => exact ⟨_,.inr ⟨.restore old,_,rfl⟩,holds.restore,nofun⟩
  | empty => exact ⟨_,.inr ⟨.empty,_,rfl⟩,holds.empty,nofun⟩
  | idle free => exact ⟨shape,.inl rfl,holds,free⟩

theorem Recovered.apart (recovered : Recovered files id operation shape after) (holds : Holds start journal files row id shape bytes) {path : Path}
    (foreign : ¬Belongs journal id path) : after path = files path := by
  have ne : ∀ mine, Belongs journal id mine → path ≠ mine := by
    rintro mine belongs rfl
    exact foreign belongs
  cases recovered with
  | discard => exact Function.update_of_ne (ne _ (holds.target .archive rfl)) _ _
  | clear => exact Function.update_of_ne (ne _ (.inl rfl)) _ _
  | restore old =>
    rw [Function.update_of_ne (ne (.trash operation) (holds.target .delete rfl)),Function.update_of_ne (ne _ (holds.belongs rfl))]
  | empty => exact Function.update_of_ne (ne _ (holds.target .delete rfl)) _ _
  | idle free => rfl

end

end GmsRemoteTest.ArtifactRetention
