import ConfigMigration.Proofs.Store.Session

/-!
# Targets of a store

A command to a store in memory is about one target, unless it plants a failure of a Set by its number.  It is answered
from what the store holds for this target and changes nothing that the store holds for another one.  All that the
targets share is the number of the next request, which shows in the time stamps of Sets.  So two sessions about
different targets can be woven into one in any way, and each of them runs in it as it runs alone
(`targets_are_independent`).
-/

namespace ConfigMigration.MemoryStore

/-- The target that a command is about. -/
def Command.target? : Command → Option String
  | insertTree target _ => some target
  | failGet target => some target
  | failSet _ => none
  | get target _ => some target
  | set r => some r.target

/-- Whether a command is about a target. -/
def Command.isAbout (target : String) (c : Command) : Bool := c.target? = some target

/-- An answer without its time stamp. -/
def Answer.untimed : Answer → Answer
  | response (.ok a) => response (.ok { a with timestamp := 0 })
  | x => x

/-- A command with its answer, without the time stamp. -/
def untimed (exchange : Command × Answer) : Command × Answer := (exchange.1, exchange.2.untimed)

/-- The third session is woven from the first two: it holds the commands of both, those of each in their order. -/
inductive Woven : List Command → List Command → List Command → Prop where
  | nil : Woven [] [] []
  | left {xs ys zs : List Command} (c : Command) (h : Woven xs ys zs) : Woven (c :: xs) ys (c :: zs)
  | right {xs ys zs : List Command} (c : Command) (h : Woven xs ys zs) : Woven xs (c :: ys) (c :: zs)

/-- Two stores without planted failures of Sets hold the same for a target. -/
structure SameAt (target : String) (s t : MemoryStore) : Prop where
  tree : s.tree? target = t.tree? target
  failingGets : target ∈ s.failingGets ↔ target ∈ t.failingGets
  failingSets : s.failingSets = [] ∧ t.failingSets = []

/-! ### Woven sessions -/

namespace Woven

variable {xs ys zs : List Command}

theorem symm (h : Woven xs ys zs) : Woven ys xs zs := by
  induction h with
  | nil => exact nil
  | left c _ ih => exact right c ih
  | right c _ ih => exact left c ih

theorem forall_mem {P : Command → Prop} (h : Woven xs ys zs) (hxs : ∀ c ∈ xs, P c) (hys : ∀ c ∈ ys, P c) :
    ∀ c ∈ zs, P c := by
  induction h with
  | nil => exact hxs
  | left c _ ih =>
    rw [List.forall_mem_cons] at hxs ⊢
    exact ⟨hxs.1, ih hxs.2 hys⟩
  | right c _ ih =>
    rw [List.forall_mem_cons] at hys ⊢
    exact ⟨hys.1, ih hxs hys.2⟩

theorem filter_eq {p : Command → Bool} (h : Woven xs ys zs) (hxs : ∀ c ∈ xs, p c = true)
    (hys : ∀ c ∈ ys, p c = false) : zs.filter p = xs := by
  induction h with
  | nil => rfl
  | left c _ ih =>
    rw [List.forall_mem_cons] at hxs
    rw [List.filter_cons_of_pos hxs.1, ih hxs.2 hys]
  | right c _ ih =>
    rw [List.forall_mem_cons] at hys
    rw [List.filter_cons_of_neg (by simp [hys.1]), ih hxs hys.2]

end Woven

/-! ### One command -/

theorem isAbout_iff {target : String} {c : Command} : c.isAbout target = true ↔ c.target? = some target := by
  simp [Command.isAbout]

/-- Without planted failures, each tree behind a Set is the one that the request makes of it. -/
theorem tree?_set {s : MemoryStore} (hs : s.failingSets = []) (r : SetRequest) (target : String) :
    (s.set r).state.tree? target = step target (s.tree? target) r := by
  cases hr : (s.set r).result with
  | ok a => exact tree?_set_of_ok hr target
  | error e =>
    rw [tree?_set_of_error hr]
    by_cases ht : r.target = target
    · have hfail : ∃ e, applyTo r ((s.tree? r.target).getD .emptyObject) = .error e := by
        cases happly : applyTo r ((s.tree? r.target).getD .emptyObject) with
        | error e => exact ⟨e, rfl⟩
        | ok tree =>
          obtain ⟨a, ha⟩ := isOk_set hs happly
          rw [hr] at ha
          cases ha
      obtain ⟨e, hfail⟩ := hfail
      rw [← ht, step, if_pos rfl, hfail]
      rfl
    · rw [step_of_ne ht]

theorem result_set {s : MemoryStore} (hs : s.failingSets = []) (r : SetRequest) :
    (s.set r).result =
      (applyTo r ((s.tree? r.target).getD .emptyObject)).map fun _ => ⟨r.target, s.sets.length⟩ := by
  have hnot : s.sets.length ∉ s.failingSets := by
    rw [hs]
    exact List.not_mem_nil
  simp only [set, if_neg hnot]
  cases applyTo r ((s.tree? r.target).getD .emptyObject) <;> rfl

theorem failingSets_after {s : MemoryStore} (hs : s.failingSets = []) {c : Command} {target : String}
    (hc : c.target? = some target) : (s.after c).failingSets = [] := by
  cases c with
  | failSet index => cases hc
  | set r => exact (failures_set s r).2.trans hs
  | _ => exact hs

namespace SameAt

variable {target : String} {s t : MemoryStore} {c : Command}

theorem untimed_answer (h : SameAt target s t) (hc : c.target? = some target) :
    (s.answer c).untimed = (t.answer c).untimed := by
  cases c with
  | get other path =>
    obtain rfl := Option.some.inj hc
    have hget : (s.get other path).result = (t.get other path).result := by
      simp only [get, h.tree, h.failingGets]
    rw [answer, answer, hget]
  | set r =>
    obtain rfl := Option.some.inj hc
    rw [answer, answer, result_set h.failingSets.1, result_set h.failingSets.2, h.tree]
    cases applyTo r ((t.tree? r.target).getD .emptyObject) <;> rfl
  | _ => rfl

theorem after (h : SameAt target s t) (hc : c.target? = some target) : SameAt target (s.after c) (t.after c) where
  tree := by
    cases c with
    | insertTree other tree =>
      obtain rfl := Option.some.inj hc
      change (s.insertTree other tree).tree? other = (t.insertTree other tree).tree? other
      rw [tree?_insertTree, tree?_insertTree, if_pos rfl, if_pos rfl]
    | set r =>
      change (s.set r).state.tree? target = (t.set r).state.tree? target
      rw [tree?_set h.failingSets.1, tree?_set h.failingSets.2, h.tree]
    | _ => exact h.tree
  failingGets := by
    cases c with
    | failGet other =>
      change target ∈ s.failingGets ++ [other] ↔ target ∈ t.failingGets ++ [other]
      rw [List.mem_append, List.mem_append, h.failingGets]
    | set r =>
      change target ∈ (s.set r).state.failingGets ↔ target ∈ (t.set r).state.failingGets
      rw [(failures_set s r).1, (failures_set t r).1]
      exact h.failingGets
    | _ => exact h.failingGets
  failingSets := ⟨failingSets_after h.failingSets.1 hc, failingSets_after h.failingSets.2 hc⟩

/-- A command about another target leaves what a store holds for a target. -/
theorem after_other (h : SameAt target s t) {other : String} (hc : c.target? = some other) (hne : other ≠ target) :
    SameAt target (s.after c) t where
  tree := by
    cases c with
    | insertTree other tree =>
      obtain rfl := Option.some.inj hc
      change (s.insertTree other tree).tree? target = _
      rw [tree?_insertTree, if_neg fun heq => hne heq.symm]
      exact h.tree
    | set r =>
      obtain rfl := Option.some.inj hc
      change (s.set r).state.tree? target = _
      rw [tree?_set h.failingSets.1, step_of_ne hne]
      exact h.tree
    | _ => exact h.tree
  failingGets := by
    cases c with
    | failGet other =>
      obtain rfl := Option.some.inj hc
      change target ∈ s.failingGets ++ [other] ↔ _
      rw [List.mem_append, List.mem_singleton, or_iff_left fun heq => hne heq.symm]
      exact h.failingGets
    | set r =>
      change target ∈ (s.set r).state.failingGets ↔ _
      rw [(failures_set s r).1]
      exact h.failingGets
    | _ => exact h.failingGets
  failingSets := ⟨failingSets_after h.failingSets.1 hc, h.failingSets.2⟩

/-! ### Sessions -/

/-- What a session does for a target, its commands about the target do alone. -/
theorem session (h : SameAt target s t) {commands : List Command} (hcs : ∀ c ∈ commands, c.target?.isSome = true) :
    SameAt target (s.afterAll commands) (t.afterAll (commands.filter (·.isAbout target))) ∧
      ((s.transcript commands).filter (·.1.isAbout target)).map untimed =
        (t.transcript (commands.filter (·.isAbout target))).map untimed := by
  induction commands generalizing s t with
  | nil => exact ⟨h, rfl⟩
  | cons c commands ih =>
    rw [List.forall_mem_cons] at hcs
    obtain ⟨other, hother⟩ := Option.isSome_iff_exists.mp hcs.1
    cases hc : c.isAbout target with
    | true =>
      have hc' := isAbout_iff.mp hc
      obtain ⟨hsame, hanswers⟩ := ih (h.after hc') hcs.2
      simp only [List.filter_cons, hc, if_true, afterAll_cons, transcript, List.map_cons]
      rw [hanswers, untimed, untimed, h.untimed_answer hc']
      exact ⟨hsame, rfl⟩
    | false =>
      have hne : other ≠ target := by
        rintro rfl
        rw [isAbout_iff.mpr hother] at hc
        cases hc
      simp only [List.filter_cons, hc, Bool.false_eq_true, if_false, afterAll_cons, transcript]
      exact ih (h.after_other hother hne) hcs.2

theorem of_woven (h : SameAt target s t) {other : String} (hne : other ≠ target) {xs ys zs : List Command}
    (hxs : ∀ c ∈ xs, c.target? = some target) (hys : ∀ c ∈ ys, c.target? = some other) (hzs : Woven xs ys zs) :
    SameAt target (s.afterAll zs) (t.afterAll xs) ∧
      ((s.transcript zs).filter (·.1.isAbout target)).map untimed = (t.transcript xs).map untimed := by
  have hsome : ∀ c ∈ zs, c.target?.isSome = true :=
    hzs.forall_mem (fun c hc => by rw [hxs c hc]; rfl) fun c hc => by rw [hys c hc]; rfl
  have hfilter : zs.filter (·.isAbout target) = xs := by
    refine hzs.filter_eq (fun c hc => isAbout_iff.mpr (hxs c hc)) fun c hc => ?_
    simp [Command.isAbout, hys c hc, hne]
  have hsession := h.session hsome
  rwa [hfilter] at hsession

end SameAt

/-- Two sessions about different targets, woven into one, leave the tree of each target as the session about it does
alone, and the commands of each session have the answers that they have there, time stamps of Sets apart. -/
theorem targets_are_independent {s : MemoryStore} (hs : s.failingSets = []) {a b : String} (hne : a ≠ b)
    {xs ys zs : List Command} (hxs : ∀ c ∈ xs, c.target? = some a) (hys : ∀ c ∈ ys, c.target? = some b)
    (hzs : Woven xs ys zs) :
    (s.afterAll zs).tree? a = (s.afterAll xs).tree? a ∧
    (s.afterAll zs).tree? b = (s.afterAll ys).tree? b ∧
    ((s.transcript zs).filter (·.1.isAbout a)).map untimed = (s.transcript xs).map untimed ∧
    ((s.transcript zs).filter (·.1.isAbout b)).map untimed = (s.transcript ys).map untimed := by
  have hself : ∀ target, SameAt target s s := fun target => ⟨rfl, Iff.rfl, hs, hs⟩
  obtain ⟨ha, hanswersA⟩ := (hself a).of_woven hne.symm hxs hys hzs
  obtain ⟨hb, hanswersB⟩ := (hself b).of_woven hne hys hxs hzs.symm
  exact ⟨ha.tree, hb.tree, hanswersA, hanswersB⟩

/-- A session about one target: a tree is put in, changed and read. -/
def coreSession : List Command :=
  [.insertTree "core" (.object [("site", .string "pune")]),
    .set { target := "core", updates := [⟨Path.root.push "zone", .string "west"⟩] }, .get "core" .root]

/-- A session about another target: a Set is refused, one makes the tree, and the Get fails. -/
def edgeSession : List Command :=
  [.set { target := "edge", updates := [⟨.root, .bool true⟩] },
    .set { target := "edge", updates := [⟨Path.root.push "zone", .string "east"⟩] },
    .failGet "edge", .get "edge" .root]

theorem coreSession_independent_of_edgeSession :
    ∃ zs, Woven coreSession edgeSession zs ∧ zs.length = 7 ∧
      empty.failingSets = [] ∧ (∀ c ∈ coreSession, c.target? = some "core") ∧
      (∀ c ∈ edgeSession, c.target? = some "edge") ∧
      (empty.afterAll zs).tree? "core" = some (.object [("site", .string "pune"), ("zone", .string "west")]) ∧
      (empty.afterAll zs).tree? "edge" = some (.object [("zone", .string "east")]) ∧
      ((empty.transcript zs).filter (·.1.isAbout "edge")).map untimed =
        (empty.transcript edgeSession).map untimed := by
  have hcore : ∀ c ∈ coreSession, c.target? = some "core" := by simp [coreSession, Command.target?]
  have hedge : ∀ c ∈ edgeSession, c.target? = some "edge" := by simp [edgeSession, Command.target?]
  have hwoven : Woven coreSession edgeSession _ :=
    .right _ (.left _ (.right _ (.left _ (.right _ (.right _ (.left _ .nil))))))
  obtain ⟨htreeCore, htreeEdge, -, hanswers⟩ :=
    targets_are_independent (s := empty) rfl (by decide : "core" ≠ "edge") hcore hedge hwoven
  exact ⟨_, hwoven, rfl, rfl, hcore, hedge, htreeCore.trans rfl, htreeEdge.trans rfl, hanswers⟩

end ConfigMigration.MemoryStore
