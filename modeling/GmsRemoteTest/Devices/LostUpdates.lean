import GmsRemoteTest.Devices.RuntimeWrites

/-! Whether the entries of the runtime configuration keep what their last writers wrote. Every write puts back
more than the entries it sets, and it keeps the others exactly when they are as its writer read them. -/
namespace GmsRemoteTest.Devices

inductive Entry where
  | assignment (key : String)
  | source (serial : String)
  | clientHost (ip : String)
deriving DecidableEq

def Entry.Value : Entry → Type
  | .assignment _ => Assignment
  | .source _ => DeviceSource
  | .clientHost _ => String

def RuntimeConfig.entry (config : RuntimeConfig) : LastWrite.Store Entry.Value
  | .assignment key => config.assignments.get key
  | .source serial => config.sources.get serial
  | .clientHost ip => config.clientHosts.get ip

def ConfigEdits.sets (edits : ConfigEdits) : ∀ entry : Entry, Option (Option entry.Value)
  | .assignment key => Dict.written edits.assignments key
  | .source serial => Dict.written edits.sources serial
  | .clientHost ip => Dict.written edits.clientHosts ip

def Writer.backs : Writer → Entry → Bool
  | .assignments part, .assignment _ => part.locked
  | .migrateSerial .., .assignment _ | .migrateSerial .., .source _ => true
  | .persistSources .., .source _ => true
  | .removeSources _, _ | .recordReconnected .., _ => true
  | .clientHost .., .clientHost _ => true
  | _, _ => false

def Writer.asWrite (writer : Writer) (edits : ConfigEdits) (base : RuntimeConfig) : LastWrite.Write Entry.Value where
  base := base.entry
  sets := fun entry => if writer.backs entry then edits.sets entry else none
  backs := writer.backs

def Completed.asWrite (completed : Completed) : LastWrite.Write Entry.Value :=
  completed.writer.asWrite completed.edits completed.base

/-- The value of every entry by its last writer. -/
def World.lastWritten (world : World) (initial : RuntimeConfig) : LastWrite.Store Entry.Value :=
  LastWrite.last initial.entry (world.log.map Completed.asWrite)

theorem Section.locked_of_edits {part : Section} {assignments : Assignments} {edits : Edits}
    (saves : part.edits assignments = some edits) : part.locked = true := by
  cases part <;> first | rfl | cases saves

theorem Writer.assignments_locked {part : Section} {base : RuntimeConfig} {edits : ConfigEdits}
    (saves : (Writer.assignments part).edits base = some edits) : part.locked = true := by
  obtain ⟨stored,saved,_⟩ := Option.map_eq_some_iff.mp saves
  exact Section.locked_of_edits saved

theorem Writer.save_entry {writer : Writer} {edits : ConfigEdits} {base : RuntimeConfig} (config : RuntimeConfig)
    (saves : writer.edits base = some edits) :
    (writer.save edits base config).entry = (writer.asWrite edits base).result config.entry := by
  have sourcesOnly : writer.backs (.clientHost "") = true → writer.holdsConfig = false → edits.assignments = [] ∧ edits.clientHosts = [] := by
    intro whole notHost
    cases writer with
    | removeSources devices =>
      simp only [Writer.edits] at saves
      split at saves
      · cases saves
      · cases saves
        exact ⟨rfl,rfl⟩
    | recordReconnected deviceHost devices now =>
      cases saves
      exact ⟨rfl,rfl⟩
    | clientHost ip username => cases notHost
    | assignments part => cases whole
    | migrateSerial migration now => cases whole
    | persistSources deviceHost serials sourceOs now => cases whole
  funext entry
  unfold LastWrite.Write.result Writer.asWrite
  cases writer with
  | assignments part =>
    have locked := Writer.assignments_locked saves
    cases entry
    · exact (Dict.get_editAll _ _ _).trans (by simp only [Writer.backs,locked]; rfl)
    · rfl
    · rfl
  | migrateSerial migration now =>
    cases entry
    · exact Dict.get_editAll _ _ _
    · exact Dict.get_editAll _ _ _
    · rfl
  | persistSources deviceHost serials sourceOs now =>
    cases entry
    · rfl
    · exact Dict.get_editAll _ _ _
    · rfl
  | removeSources devices =>
    obtain ⟨noAssignments,noHosts⟩ := sourcesOnly rfl rfl
    cases entry
    · simp only [Writer.backs,if_true,ConfigEdits.sets,noAssignments]
      rfl
    · exact Dict.get_editAll _ _ _
    · simp only [Writer.backs,if_true,ConfigEdits.sets,noHosts]
      rfl
  | recordReconnected deviceHost devices now =>
    obtain ⟨noAssignments,noHosts⟩ := sourcesOnly rfl rfl
    cases entry
    · simp only [Writer.backs,if_true,ConfigEdits.sets,noAssignments]
      rfl
    · exact Dict.get_editAll _ _ _
    · simp only [Writer.backs,if_true,ConfigEdits.sets,noHosts]
      rfl
  | clientHost ip username =>
    cases entry
    · rfl
    · rfl
    · exact Dict.get_editAll _ _ _

def Reading.Current (reading : Reading) (config : RuntimeConfig) : Prop :=
  ∀ edits, reading.writer.edits reading.base = some edits → (reading.writer.asWrite edits reading.base).Current config.entry

theorem Reading.current_of_base {reading : Reading} {config : RuntimeConfig} (same : reading.base = config) : reading.Current config :=
  fun _ _ _ _ _ => congrFun (congrArg RuntimeConfig.entry same) _

/-- The condition on a run: every write finds what it puts back as its writer read it. -/
def World.FindsCurrent (world : World) (event : Event) : Prop :=
  ∀ index reading, event = .write index → world.reading[index]? = some reading → reading.Current world.config

def inTurn : List Event :=
  [.start (.clientHost "10.0.0.7" "lab"),.write 0,.start (.recordReconnected "gms@10.0.0.9" ["S1"] 5),.write 0]

def overlapping : List Event :=
  [.start (.recordReconnected "gms@10.0.0.9" ["S1"] 5),.start (.clientHost "10.0.0.7" "lab"),.write 1,.write 0]

end GmsRemoteTest.Devices
