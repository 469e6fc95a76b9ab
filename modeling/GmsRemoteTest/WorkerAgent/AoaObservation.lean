import GmsRemoteTest.Foundation.AoaCondition

/-! `Observer`: what it reads of a device, each thing once where it can be read, and the value of a condition over these readings. A reading
that is unavailable is no evidence of absence. -/
namespace GmsRemoteTest.AoaObservation
open AoaDisplay AoaSemantics Kleene

structure Node where
  text : String := ""
  resourceId : String := ""
  contentDesc : String := ""
  checked : Bool := false
  enabled : Bool := false
  bounds : List ℤ := []
deriving DecidableEq

def Node.get (node : Node) (key : String) : Option SelectorValue :=
  [("text",.text node.text),("resource_id",.text node.resourceId),("content_desc",.text node.contentDesc),("checked",.flag node.checked),
    ("enabled",.flag node.enabled)].lookup key

def Node.agrees (node : Node) (selector : Selector) : Bool := selector.all fun (key,value) => node.get key = some value

def select (nodes : List Node) (selector : Selector) : Except String (List Node) :=
  let found := nodes.filter fun node => node.agrees selector
  if 1 < found.length then .error "页面元素不唯一，停止自动点击" else .ok found

/-- The devices and programs that an observer asks, each with what it answers next; an error is an `ObservationUnavailableError`, of
`validateBinding` any other. -/
structure World (σ : Type) where
  /-- `adb_state` of `_wait_adb_state`. -/
  waitAdbState : σ → String × σ
  /-- The nodes of a page that `uiautomator` dumped. -/
  dump : ℚ → σ → Except String (List Node) × σ
  /-- The ID of `capture_binding`. -/
  captureBinding : σ → Except String String × σ
  /-- The bytes of `capture_fingerprint`. -/
  captureFingerprint : String → Coordinates → ℚ → σ → Except String (List Nat) × σ
  validateBinding : σ → Except String Unit × σ

/-- What `evaluate` has read. -/
structure Cache where
  adb : Option String := none
  nodes : Option (List Node) := none
  frames : List (Coordinates × List Nat) := []

/-- `context.get("display_id")`. -/
structure Observer where
  displayId : Entry ℚ

section reading
variable {σ : Type} (world : World σ) (observer : Observer) (timeout : ℚ)

def adbState (state : σ) : Except String String × σ :=
  let (adb,state) := world.waitAdbState state
  (if adb ∈ ADB_STATES then .ok adb else .error ("ADB 观察失败：" ++ adb),state)

def nodes (state : σ) : Except String (List Node) × σ :=
  if observer.displayId ≠ .given 0 then (.error "uiautomator 无法证明非默认显示器，请使用绑定外部画面源",state)
  else match adbState world state with
  | (.error message,state) => (.error message,state)
  | (.ok adb,state) =>
    if adb ≠ "device" then (.error "ADB 未授权；此页面断言需要已绑定外部画面源",state)
    else match world.dump timeout state with
    | (.error message,state) => (.error message,state)
    | (.ok [],state) => (.error "页面结构没有可观察元素，无法判断控件是否存在",state)
    | (.ok (node :: others),state) => (.ok (node :: others),state)

abbrev Store (σ : Type) := σ × Cache

def readAdb : Store σ → Except String String × Store σ
  | (state,cache) => match cache.adb with
    | some adb => (.ok adb,(state,cache))
    | none => match adbState world state with
      | (.error message,state) => (.error message,(state,cache))
      | (.ok adb,state) => (.ok adb,(state,{cache with adb := some adb}))

def readNodes : Store σ → Except String (List Node) × Store σ
  | (state,cache) => match cache.nodes with
    | some found => (.ok found,(state,cache))
    | none => match nodes world observer timeout state with
      | (.error message,state) => (.error message,(state,cache))
      | (.ok found,state) => (.ok found,(state,{cache with nodes := some found}))

def readFrame (bindingId : Entry String) (roi : Coordinates) : Store σ → Except String (List Nat) × Store σ
  | (state,cache) => match world.captureBinding state with
    | (.error message,state) => (.error message,(state,cache))
    | (.ok binding,state) =>
      if .given binding ≠ bindingId then (.error "画面参考与当前绑定不一致",(state,cache))
      else match cache.frames.lookup roi with
      | some frame => (.ok frame,(state,cache))
      | none => match world.captureFingerprint binding roi timeout state with
        | (.error message,state) => (.error message,(state,cache))
        | (.ok frame,state) => (.ok frame,(state,{cache with frames := (roi,frame) :: cache.frames}))

def hexDigit (c : Char) : Nat := if c.isDigit then c.toNat - 48 else c.toNat - 87

def fromHex : List Char → List Nat
  | high :: low :: rest => (16 * hexDigit high + hexDigit low) :: fromHex rest
  | _ => []

def difference (actual reference : List Nat) : ℚ := ((actual.zip reference).map fun (a,b) => |(a : ℚ) - b|).sum

def observeLeaf (store : Store σ) : Leaf → Except String Bool × Store σ
  | .adbState state =>
    let (adb,store) := readAdb world store
    (adb.map fun adb => .given adb = state,store)
  | .ui selector exists_ =>
    let (found,store) := readNodes world observer timeout store
    (found.bind fun nodes => (select nodes (selector.getD [])).map fun found => (found ≠ []) == exists_.getD true,store)
  | .visual roi fingerprint maxDelta bindingId _ =>
    let (frame,store) := readFrame world timeout bindingId roi store
    (frame.map fun actual => difference actual (fromHex (fingerprint.getD "").toList) / 256 ≤ maxDelta.getD 3,store)
  | .unknown | .noObject => (.error "",store)

def failed : Except String Bool → Option String
  | .error message => some message
  | .ok _ => none

def settle (mode : Mode) (results : List (Except String Bool)) : Except String Bool :=
  let outcomes := results.filterMap Except.toOption
  let unavailable := results.filterMap failed
  if mode = .any ∧ outcomes.any id then .ok true
  else if mode = .all ∧ false ∈ outcomes then .ok false
  else match unavailable with
  | message :: _ => .error message
  | [] => .ok (mode.join outcomes)

mutual
def evaluateTerm : Condition → Store σ → Except String Bool × Store σ
  | .leaf leaf, store => observeLeaf world observer timeout store leaf
  | .join mode terms, store =>
    let (results,store) := evaluateTerms terms store
    (settle mode results,store)
def evaluateTerms : List Condition → Store σ → List (Except String Bool) × Store σ
  | [], store => ([],store)
  | term :: terms, store =>
    let (result,store) := evaluateTerm term store
    let (results,store) := evaluateTerms terms store
    (result :: results,store)
end

inductive Failure
  | invalid (message : String)
  | unbound (message : String)
  | unavailable (message : String)
deriving DecidableEq

def evaluate (condition : Condition) (state : σ) : Except Failure Bool × σ :=
  match validateCondition 0 condition with
  | .error message => (.error (.invalid message),state)
  | .ok _ => match world.validateBinding state with
    | (.error message,state) => (.error (.unbound message),state)
    | (.ok _,state) => match evaluateTerm world observer timeout condition (state,{}) with
      | (.error message,(state,_)) => (.error (.unavailable message),state)
      | (.ok value,(state,_)) => match world.validateBinding state with
        | (.error message,state) => (.error (.unbound message),state)
        | (.ok _,state) => (.ok value,state)

mutual
/-- A condition, each leaf with the store it is read from. -/
def visit : Condition → Store σ → Formula (Leaf × Store σ) × Store σ
  | .leaf leaf, store => (.leaf (leaf,store),(observeLeaf world observer timeout store leaf).2)
  | .join mode terms, store =>
    let (visited,store) := visits terms store
    (.join mode visited,store)
def visits : List Condition → Store σ → List (Formula (Leaf × Store σ)) × Store σ
  | [], store => ([],store)
  | term :: terms, store =>
    let (visited,store) := visit term store
    let (others,store) := visits terms store
    (visited :: others,store)
end

/-- The outcome of a leaf, unknown where it is unavailable. -/
def outcome : Leaf × Store σ → Option Bool
  | (leaf,store) => (observeLeaf world observer timeout store leaf).1.toOption

end reading

theorem settle_toOption (mode : Mode) (results : List (Except String Bool)) :
    (settle mode results).toOption = mode.strong (results.map Except.toOption) := by
  have known : ∀ value, value ∈ results.filterMap Except.toOption ↔ some value ∈ results.map Except.toOption := by
    intro value
    rw [List.mem_filterMap,List.mem_map]
  have any : (results.filterMap Except.toOption).any id = true ↔ true ∈ results.filterMap Except.toOption := by
    rw [List.any_eq_true]
    exact ⟨fun ⟨_,member,same⟩ => same ▸ member,fun member => ⟨_,member,rfl⟩⟩
  unfold Mode.strong settle
  dsimp only
  by_cases stop : some mode.stop ∈ results.map Except.toOption
  · rw [if_pos stop]
    have member := (known _).mpr stop
    cases mode with
    | all => rw [if_neg (fun both => nomatch both.1),if_pos ⟨rfl,member⟩]; rfl
    | any => rw [if_pos ⟨rfl,any.mpr member⟩]; rfl
  · have free := mt (known _).mp stop
    rw [if_neg stop,if_neg (by rintro ⟨rfl,some_⟩; exact free (any.mp some_)),if_neg (by rintro ⟨rfl,some_⟩; exact free some_)]
    have join : mode.join (results.filterMap Except.toOption) = !mode.stop := Bool.eq_not.mpr (mt Mode.join_eq_stop.mp free)
    split
    · rename_i message _ found
      have inside : message ∈ results.filterMap failed := by rw [found]; exact List.mem_cons_self
      obtain ⟨result,member,same⟩ := List.mem_filterMap.mp inside
      rw [if_pos]
      · rfl
      · cases result with
        | error message => exact List.mem_map.mpr ⟨_,member,rfl⟩
        | ok value => cases same
    · rename_i found
      rw [if_neg,join]
      · rfl
      · intro member
        obtain ⟨result,inside,same⟩ := List.mem_map.mp member
        cases result with
        | error message =>
          have listed : message ∈ results.filterMap failed := List.mem_filterMap.mpr ⟨_,inside,rfl⟩
          rw [found] at listed
          cases listed
        | ok value => cases same

section reading
variable {σ : Type} {world : World σ} {observer : Observer} {timeout : ℚ}

theorem visits_cons (term : Condition) (terms : List Condition) (store : Store σ) :
    visits world observer timeout (term :: terms) store =
      ((visit world observer timeout term store).1 :: (visits world observer timeout terms (visit world observer timeout term store).2).1,
        (visits world observer timeout terms (visit world observer timeout term store).2).2) := by
  rw [visits]

theorem evaluateTerms_cons (term : Condition) (terms : List Condition) (store : Store σ) :
    evaluateTerms world observer timeout (term :: terms) store =
      ((evaluateTerm world observer timeout term store).1 ::
          (evaluateTerms world observer timeout terms (evaluateTerm world observer timeout term store).2).1,
        (evaluateTerms world observer timeout terms (evaluateTerm world observer timeout term store).2).2) := by
  rw [evaluateTerms]

theorem visit_fst (condition : Condition) (store : Store σ) : (visit world observer timeout condition store).1.map Prod.fst = condition := by
  induction condition using Formula.induct generalizing store with
  | leaf leaf => rw [visit,Formula.map_leaf]
  | join mode terms ih =>
    rw [visit,Formula.map_join]
    refine congrArg _ ?_
    induction terms generalizing store with
    | nil => rw [visits,List.map_nil]
    | cons term terms rest =>
      obtain ⟨first,others⟩ := List.forall_mem_cons.mp ih
      rw [visits_cons,List.map_cons,first,rest others]

theorem evaluateTerm_strong (condition : Condition) (store : Store σ) :
    (evaluateTerm world observer timeout condition store).2 = (visit world observer timeout condition store).2 ∧
      (evaluateTerm world observer timeout condition store).1.toOption =
        ((visit world observer timeout condition store).1.map (outcome world observer timeout)).strong := by
  induction condition using Formula.induct generalizing store with
  | leaf leaf =>
    rw [visit,evaluateTerm,Formula.map_leaf,Formula.strong_leaf]
    exact ⟨rfl,rfl⟩
  | join mode terms ih =>
    rw [visit,evaluateTerm,Formula.map_join,Formula.strong_join]
    dsimp only
    rw [settle_toOption,List.map_map]
    have all : (evaluateTerms world observer timeout terms store).2 = (visits world observer timeout terms store).2 ∧
        (evaluateTerms world observer timeout terms store).1.map Except.toOption =
          (visits world observer timeout terms store).1.map (Formula.strong ∘ Formula.map (outcome world observer timeout)) := by
      induction terms generalizing store with
      | nil =>
        rw [visits,evaluateTerms]
        exact ⟨rfl,rfl⟩
      | cons term terms rest =>
        obtain ⟨first,others⟩ := List.forall_mem_cons.mp ih
        obtain ⟨state,value⟩ := first store
        obtain ⟨state',values⟩ := rest others (visit world observer timeout term store).2
        rw [visits_cons,evaluateTerms_cons,state]
        refine ⟨state',?_⟩
        rw [List.map_cons,List.map_cons,value,values]
        rfl
    exact ⟨all.1,congrArg mode.strong all.2⟩

/-- A leaf that its store shows to be on the page: the only node of a selector that has to exist, or a picture within its tolerance. -/
def Shown (world : World σ) (observer : Observer) (timeout : ℚ) : Leaf × Store σ → Prop
  | (.ui selector exists_,store) => exists_.getD true = true ∧
      ∃ found node, (readNodes world observer timeout store).1 = .ok found ∧ found.filter (fun node => node.agrees (selector.getD [])) = [node]
  | (.visual roi fingerprint maxDelta bindingId _,store) => ∃ actual, (readFrame world timeout bindingId roi store).1 = .ok actual ∧
      difference actual (fromHex (fingerprint.getD "").toList) / 256 ≤ maxDelta.getD 3
  | _ => False

theorem outcome_shown {leaf : Leaf} {store : Store σ} (page : pageLeaf leaf = true) (true_ : outcome world observer timeout (leaf,store) = some true) :
    Shown world observer timeout (leaf,store) := by
  unfold outcome at true_
  cases leaf with
  | ui selector exists_ =>
    have must : exists_.getD true = true := by
      cases exists_ with
      | absent => rfl
      | given value => cases value <;> first | rfl | cases page
      | other => cases page
    refine ⟨must,?_⟩
    simp only [observeLeaf] at true_
    cases read : (readNodes world observer timeout store).1 with
    | error message =>
      rw [read] at true_
      cases true_
    | ok found =>
      rw [read,must] at true_
      dsimp only [Except.bind] at true_
      unfold select at true_
      dsimp only at true_
      split at true_
      · cases true_
      rename_i few
      cases only : found.filter fun node => node.agrees (selector.getD []) with
      | nil =>
        rw [only] at true_
        cases true_
      | cons node others =>
        rw [only,List.length_cons,not_lt] at few
        have none_ : others = [] := List.length_eq_zero_iff.mp (by omega)
        exact ⟨found,node,rfl,by rw [only,none_]⟩
  | visual roi fingerprint maxDelta bindingId exists_ =>
    simp only [observeLeaf] at true_
    cases read : (readFrame world timeout bindingId roi store).1 with
    | error message =>
      rw [read] at true_
      cases true_
    | ok actual =>
      rw [read] at true_
      exact ⟨actual,read,of_decide_eq_true (Option.some.inj true_)⟩
  | adbState state => cases page
  | unknown | noObject => cases page

theorem evaluate_fst {condition : Condition} (accepted : validateCondition 0 condition = .ok ()) (world : World σ) (observer : Observer)
    (timeout : ℚ) (state : σ) :
    let bound := world.validateBinding state
    let ran := evaluateTerm world observer timeout condition (bound.2,{})
    (evaluate world observer timeout condition state).1 = match bound.1 with
      | .error message => .error (.unbound message)
      | .ok _ => match ran.1 with
        | .error message => .error (.unavailable message)
        | .ok value => match (world.validateBinding ran.2.1).1 with
          | .error message => .error (.unbound message)
          | .ok _ => .ok value := by
  intro bound ran
  unfold evaluate
  rw [accepted]
  dsimp only
  obtain ⟨⟨first,state'⟩,same⟩ : ∃ pair, world.validateBinding state = pair := ⟨_,rfl⟩
  have bound_ : bound = (first,state') := same
  have ran_ : evaluateTerm world observer timeout condition (state',{}) = ran := by
    show _ = evaluateTerm world observer timeout condition (bound.2,{})
    rw [bound_]
  rw [same,bound_]
  cases first with
  | error message => rfl
  | ok _ =>
    dsimp only
    rw [ran_]
    obtain ⟨value,⟨last,cache⟩⟩ := ran
    cases value with
    | error message => rfl
    | ok value =>
      dsimp only
      rcases world.validateBinding last with ⟨_ | _,_⟩ <;> rfl

/-- Where the binding holds before and after it, an evaluation has the value that every completion of the unavailable leaves has, and is
unavailable where they have none in common; a true one of a condition on a page is shown by some leaf. -/
theorem evaluate_kleene {condition : Condition} (accepted : validateCondition 0 condition = .ok ()) (world : World σ) (observer : Observer)
    (timeout : ℚ) (state : σ) :
    let bound := world.validateBinding state
    let visited := visit world observer timeout condition (bound.2,{})
    let settled (value : Bool) : Prop := ∀ completion : Formula (Option Bool × Bool),
      completion.map Prod.fst = visited.1.map (outcome world observer timeout) → (completion.map complete).eval = value
    let result := (evaluate world observer timeout condition state).1
    visited.1.map Prod.fst = condition ∧
    (∀ value, result = .ok value ↔ bound.1 = .ok () ∧ settled value ∧ (world.validateBinding visited.2.1).1 = .ok ()) ∧
    ((∃ message, result = .error (.unavailable message)) ↔ bound.1 = .ok () ∧ ¬∃ value, settled value) ∧
    (hasPageCondition condition = true → result = .ok true → ∃ leaf ∈ visited.1.leaves, Shown world observer timeout leaf) := by
  intro bound visited settled result
  have shape : visited.1.map Prod.fst = condition := visit_fst condition _
  have settled_iff : ∀ value, settled value ↔ (visited.1.map (outcome world observer timeout)).strong = some value :=
    fun value => Formula.strong_eq_some.symm
  obtain ⟨store,strong⟩ := @evaluateTerm_strong _ world observer timeout condition (bound.2,{})
  have values : (∀ value, result = .ok value ↔ bound.1 = .ok () ∧ settled value ∧ (world.validateBinding visited.2.1).1 = .ok ()) ∧
      ((∃ message, result = .error (.unavailable message)) ↔ bound.1 = .ok () ∧ ¬∃ value, settled value) := by
    simp only [settled_iff]
    rw [← strong]
    have same : result = _ := evaluate_fst accepted world observer timeout state
    rw [same,store]
    cases bound.1 with
    | error message => simp
    | ok _ =>
      cases (evaluateTerm world observer timeout condition (bound.2,{})).1 with
      | error message => simp [Except.toOption]
      | ok value => cases (world.validateBinding visited.2.1).1 <;> simp [Except.toOption,eq_comm]
  refine ⟨shape,values.1,values.2,fun page true_ => ?_⟩
  have known := (settled_iff true).mp ((values.1 true).mp true_).2.1
  obtain ⟨leaf,member,kind,same⟩ := Formula.exists_leaf ((Formula.needs_map Prod.fst pageLeaf visited.1).symm.trans (by rw [shape]; exact page)) known
  exact ⟨leaf,member,outcome_shown kind same⟩

end reading

def unlocked : World Unit where
  waitAdbState _ := ("device",())
  dump _ _ := (.ok [{text := "OK", enabled := true}],())
  captureBinding _ := (.error "",())
  captureFingerprint _ _ _ _ := (.error "",())
  validateBinding _ := (.ok (),())

def confirmPage : Condition :=
  .join .all [.leaf (.adbState (.given "device")),.join .any [.leaf (.ui (.given [("text",.text "OK")]) .absent),
    .leaf (.ui (.given [("text",.text "Allow")]) .absent)]]

theorem evaluate_kleene_confirm :
    hasPageCondition confirmPage = true ∧ (evaluate unlocked ⟨.given 0⟩ 5 confirmPage ()).1 = .ok true ∧
      ∃ leaf ∈ (visit unlocked ⟨.given 0⟩ 5 confirmPage ((),{})).1.leaves, Shown unlocked ⟨.given 0⟩ 5 leaf := by
  have page : hasPageCondition confirmPage = true := by decide +kernel
  have accepted : validateCondition 0 confirmPage = .ok () := by decide +kernel
  have true_ : (evaluate unlocked ⟨.given 0⟩ 5 confirmPage ()).1 = .ok true := by decide +kernel
  exact ⟨page,true_,(evaluate_kleene accepted unlocked ⟨.given 0⟩ 5 ()).2.2.2 page true_⟩

end GmsRemoteTest.AoaObservation
