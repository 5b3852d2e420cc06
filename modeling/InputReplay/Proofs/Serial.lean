import InputReplay.Proofs.Containment
import InputReplay.Proofs.Holding
import InputReplay.Proofs.Scene
import Mathlib.Data.List.Nodup
import Mathlib.Logic.Relation

/-! Calls of several threads as if they were made one after another. All that is attempted falls into
blocks, one for each call that got the lock, and each block is what its call attempts alone. The
invariant names the call in progress, which owns the lock as often as its program has taken it, and
says of every other call that it has not begun or is settled. -/

namespace InputReplay

open Function (update)

namespace Scene

variable {κ ι τ σ : Type} [Duration τ] (p : Player τ) (inj : Injector τ σ) (calls : κ → Call ι)

/-- How a call that is not in progress has come out. -/
inductive Settled (world : σ) (S : Scene κ ι τ σ) (c : κ) : Except Fault Result → Prop
  | admitted (before after : List κ) (turn : S.admitted = before ++ c :: after) (passed : c ∉ S.refused) :
      Settled world S c (inj.run (served p calls c) (worldAfter p inj calls world before)).1
  | refused (turned : c ∈ S.refused) (never : c ∉ S.admitted) : Settled world S c (.error .busy)
  | unread {outcome} (never : c ∉ S.admitted) (passed : c ∉ S.refused)
      (read : served p calls c = .finish outcome) : Settled world S c outcome

/-- Where a call stands that is not in progress. -/
inductive Standing (world : σ) (S : Scene κ ι τ σ) (c : κ) : Phase τ → Prop
  | waiting (never : c ∉ S.admitted) (passed : c ∉ S.refused) : Standing world S c .waiting
  | asked (never : c ∉ S.admitted) (passed : c ∉ S.refused) : Standing world S c .asked
  | read (never : c ∉ S.admitted) (passed : c ∉ S.refused) :
      Standing world S c (.playing (served p calls c))
  | leaving {outcome} (settled : Settled p inj calls world S c outcome) :
      Standing world S c (.playing (.finish outcome))
  | ended {outcome} (settled : Settled p inj calls world S c outcome) : Standing world S c (.ended outcome)

variable {p inj calls} {world : σ} {S T : Scene κ ι τ σ} {c : κ}

theorem Settled.later {outcome : Except Fault Result} (h : Settled p inj calls world S c outcome)
    {more : List κ} (admitted : T.admitted = S.admitted ++ more) (other : c ∉ more)
    (refused : c ∈ T.refused ↔ c ∈ S.refused) : Settled p inj calls world T c outcome := by
  cases h with
  | admitted before after turn passed =>
    refine .admitted before (after ++ more) ?_ (mt refused.1 passed)
    rw [admitted, turn, List.append_assoc, List.cons_append]
  | refused turned never => exact .refused (refused.2 turned) (by simp [admitted, never, other])
  | unread never passed read =>
    exact .unread (by simp [admitted, never, other]) (mt refused.1 passed) read

theorem Standing.later {phase : Phase τ} (h : Standing p inj calls world S c phase) {more : List κ}
    (admitted : T.admitted = S.admitted ++ more) (other : c ∉ more)
    (refused : c ∈ T.refused ↔ c ∈ S.refused) : Standing p inj calls world T c phase := by
  cases h with
  | waiting never passed => exact .waiting (by simp [admitted, never, other]) (mt refused.1 passed)
  | asked never passed => exact .asked (by simp [admitted, never, other]) (mt refused.1 passed)
  | read never passed => exact .read (by simp [admitted, never, other]) (mt refused.1 passed)
  | leaving settled => exact .leaving (settled.later admitted other refused)
  | ended settled => exact .ended (settled.later admitted other refused)

variable (p calls) in
/-- A call is done as soon as it has been read, or asks for the lock and plays under it. -/
theorem served_cases (hg : p.gestures.IsLevel) (c : κ) :
    (∃ outcome, served p calls c = .finish outcome) ∨
      ∃ k, served p calls c = .ask .enter k ∧ Holding 0 (k (.ok true)) ∧
        k (.ok false) = .finish (.error .busy) := by
  have played : ∀ label action, ∃ k, p.play label action = .ask .enter k ∧ Holding 0 (k (.ok true)) ∧
      k (.ok false) = .finish (.error .busy) := by
    intro label action
    obtain ⟨body, hb, level⟩ := p.play_locked hg label action
    exact ⟨_, hb, level.holding_afterwards, rfl⟩
  unfold served Player.serve
  split
  · unfold Player.run
    split
    · exact .inr (played _ _)
    · exact .inl ⟨_, rfl⟩
    · exact .inl ⟨_, rfl⟩
  · exact .inr (played _ _)

variable [DecidableEq ι]

variable (p inj calls)

/-- A call in progress: it was admitted last, has attempted a first part of what it attempts alone, and
goes on as it would alone. -/
structure Inside (base : Lock ι) (world : σ) (S : Scene κ ι τ σ) (c : κ) (before : List κ)
    (part : List (Attempt τ)) (depth : Nat) (rest : Play τ Result) : Prop where
  admitted : S.admitted = before ++ [c]
  passed : c ∉ S.refused
  phase : S.phase c = .playing rest
  holding : Holding depth rest
  enters : (base.enter (calls c).thread).1 = true
  lock : S.lock = base.taken (calls c).thread (depth + 1)
  made : S.made = blocks p inj calls world before ++ part.map (c, ·)
  acts : inj.acts (served p calls c) (worldAfter p inj calls world before) = part ++ inj.acts rest S.world
  run : inj.run (served p calls c) (worldAfter p inj calls world before) = inj.run rest S.world

/-- No call is in progress. -/
structure Quiet (base : Lock ι) (world : σ) (S : Scene κ ι τ σ) : Prop where
  lock : S.lock = base
  made : S.made = blocks p inj calls world S.admitted
  world_eq : S.world = worldAfter p inj calls world S.admitted

/-- What is in progress, if anything is. -/
inductive Progress (base : Lock ι) (world : σ) (S : Scene κ ι τ σ) : Option κ → Prop
  | quiet (quiet : Quiet p inj calls base world S) : Progress base world S none
  | inside {c : κ} (before : List κ) (part : List (Attempt τ)) (depth : Nat) (rest : Play τ Result)
      (inside : Inside p inj calls base world S c before part depth rest) :
      Progress base world S (some c)

structure Kept (base : Lock ι) (world : σ) (S : Scene κ ι τ σ) (current : Option κ) : Prop where
  once : S.admitted.Nodup
  /-- No thread has two calls at a time. -/
  single : ∀ c c', (calls c).thread = (calls c').thread → (S.phase c).isLive = true →
    (S.phase c').isLive = true → c = c'
  progress : Progress p inj calls base world S current
  standing : ∀ c, current ≠ some c → Standing p inj calls world S c (S.phase c)

variable {p inj calls} {base : Lock ι} {current : Option κ}

/-- The call in progress is playing. -/
theorem Kept.phase_of_current (h : Kept p inj calls base world S (some c)) :
    ∃ before part depth rest, Inside p inj calls base world S c before part depth rest := by
  cases h.progress with
  | inside before part depth rest inside => exact ⟨before, part, depth, rest, inside⟩

theorem Kept.not_current (h : Kept p inj calls base world S current) {phase : Phase τ}
    (hp : S.phase c = phase) (still : ∀ rest : Play τ Result, phase ≠ .playing rest) :
    current ≠ some c := by
  rintro rfl
  obtain ⟨_, _, _, rest, inside⟩ := h.phase_of_current
  exact still rest (hp.symm.trans inside.phase)

/-- A call that is not in progress asks for nothing but the lock. -/
theorem Kept.asks_enter (hg : p.gestures.IsLevel) (h : Kept p inj calls base world S current)
    (other : current ≠ some c) {r : PlayRequest τ} {k} (asks : S.phase c = .playing (.ask r k)) :
    ∃ k', (.ask r k : Play τ Result) = .ask .enter k' ∧ served p calls c = .ask .enter k' ∧
      Holding 0 (k' (.ok true)) ∧ k' (.ok false) = .finish (.error .busy) ∧
      c ∉ S.admitted ∧ c ∉ S.refused := by
  have stands := h.standing c other
  rw [asks] at stands
  generalize hp : Phase.playing (Program.ask r k) = phase at stands
  cases stands with
  | waiting | asked | ended => cases hp
  | leaving => cases hp
  | read never passed =>
    have same := Phase.playing.inj hp
    rcases served_cases p calls hg c with ⟨outcome, hs⟩ | ⟨k', hs, holding, busy⟩
    · rw [hs] at same
      cases same
    · exact ⟨k', same.trans hs, hs, holding, busy, never, passed⟩

theorem Kept.opening : Kept p inj calls base world (opening base world) none where
  once := List.nodup_nil
  single _ _ _ ha := by cases ha
  progress := .quiet ⟨rfl, rfl, rfl⟩
  standing _ _ := .waiting (by simp [Scene.opening]) (by simp [Scene.opening])

variable [DecidableEq κ]

/-- A call that is live after a step was live before it. -/
theorem Kept.single_update (h : Kept p inj calls base world S current) {phase : Phase τ}
    (phases : T.phase = update S.phase c phase) (live : phase.isLive = true → (S.phase c).isLive = true)
    (a b : κ) (same : (calls a).thread = (calls b).thread) (ha : (T.phase a).isLive = true)
    (hb : (T.phase b).isLive = true) : a = b := by
  have before : ∀ x, (T.phase x).isLive = true → (S.phase x).isLive = true := by
    intro x hx
    rw [phases] at hx
    by_cases hc : x = c
    · subst hc
      exact live (by simpa using hx)
    · simpa [hc] using hx
  exact h.single a b same (before a ha) (before b hb)

/-- The calls that a step leaves alone stand where they stood. -/
theorem Kept.standing_update (h : Kept p inj calls base world S current) {phase : Phase τ}
    {more : List κ} {next : Option κ} (phases : T.phase = update S.phase c phase)
    (admitted : T.admitted = S.admitted ++ more) (own : ∀ x ∈ more, x = c)
    (refused : ∀ x, x ≠ c → (x ∈ T.refused ↔ x ∈ S.refused))
    (kept : ∀ x, x ≠ c → next ≠ some x → current ≠ some x)
    (stands : next ≠ some c → Standing p inj calls world T c phase) (x : κ) (hx : next ≠ some x) :
    Standing p inj calls world T x (T.phase x) := by
  rw [phases]
  by_cases hc : x = c
  · subst hc
    simpa using stands hx
  · rw [Function.update_of_ne hc]
    exact (h.standing x (kept x hc hx)).later admitted (fun hm => hc (own x hm)) (refused x hc)

/-- What is in progress is not changed by a call that neither takes the lock nor acts. -/
theorem Progress.update_other (h : Progress p inj calls base world S current) {phase : Phase τ}
    (other : current ≠ some c) (lock : T.lock = S.lock) (same : T.world = S.world)
    (phases : T.phase = update S.phase c phase) (admitted : T.admitted = S.admitted)
    (made : T.made = S.made) (refused : ∀ x, x ≠ c → (x ∈ T.refused ↔ x ∈ S.refused)) :
    Progress p inj calls base world T current := by
  cases h with
  | quiet quiet =>
    refine .quiet ⟨lock.trans quiet.lock, ?_, ?_⟩
    · rw [made, admitted, quiet.made]
    · rw [same, admitted, quiet.world_eq]
  | @inside b before part depth rest inside =>
    have ne : b ≠ c := fun e => other (congrArg some e)
    refine .inside before part depth rest ?_
    refine ⟨?_, ?_, ?_, inside.holding, inside.enters, lock.trans inside.lock, ?_, ?_, ?_⟩
    · rw [admitted, inside.admitted]
    · exact mt (refused b ne).1 inside.passed
    · rw [phases, Function.update_of_ne ne, inside.phase]
    · rw [made, inside.made]
    · rw [same, inside.acts]
    · rw [same, inside.run]

/-- A step of a call that is not in progress and neither takes the lock nor acts. -/
theorem Kept.move_other (h : Kept p inj calls base world S current) {phase : Phase τ}
    (other : current ≠ some c) (live : phase.isLive = true → (S.phase c).isLive = true)
    (stands : Standing p inj calls world S c phase) :
    Kept p inj calls base world { S with phase := update S.phase c phase } current where
  once := h.once
  single := h.single_update rfl live
  progress := h.progress.update_other other rfl rfl rfl rfl rfl fun _ _ => Iff.rfl
  standing := h.standing_update rfl (List.append_nil _).symm (by simp) (fun _ _ => Iff.rfl)
    (fun _ _ hx => hx) fun _ => stands.later (List.append_nil _).symm (by simp) Iff.rfl

theorem Kept.call (h : Kept p inj calls base world S current) (new : S.phase c = .waiting)
    (idle : S.Idle calls (calls c).thread) :
    Kept p inj calls base world { S with phase := update S.phase c .asked } current := by
  have other := h.not_current new (by simp)
  have stands := h.standing c other
  rw [new] at stands
  cases stands with
  | waiting never passed =>
    refine ⟨h.once, ?_, h.progress.update_other other rfl rfl rfl rfl rfl fun _ _ => Iff.rfl,
      h.standing_update rfl (List.append_nil _).symm (by simp) (fun _ _ => Iff.rfl)
        (fun _ _ hx => hx) fun _ => .asked never passed⟩
    -- the thread was idle, so that the new call is its only one
    have only : ∀ x, (calls x).thread = (calls c).thread → x ≠ c →
        (update S.phase c Phase.asked x).isLive = true → False := by
      intro x same ne hx
      rw [Function.update_of_ne ne, idle x same] at hx
      cases hx
    intro a b same (ha : (update S.phase c Phase.asked a).isLive = true)
      (hb : (update S.phase c Phase.asked b).isLive = true)
    by_cases hac : a = c
    · by_contra ne
      exact only b (by rw [← same, hac]) (fun e => ne (hac.trans e.symm)) hb
    · by_cases hbc : b = c
      · exact (only a (by rw [same, hbc]) hac ha).elim
      · rw [Function.update_of_ne hac] at ha
        rw [Function.update_of_ne hbc] at hb
        exact h.single a b same ha hb

theorem Kept.read (h : Kept p inj calls base world S current) (asked : S.phase c = .asked) :
    Kept p inj calls base world { S with phase := update S.phase c (.playing (p.serve (calls c).order)) }
      current := by
  have other := h.not_current asked (by simp)
  have stands := h.standing c other
  rw [asked] at stands
  cases stands with
  | asked never passed =>
    exact h.move_other other (fun _ => by rw [asked]; rfl) (.read never passed)

/-- A call that gets the lock when no other is in progress. -/
theorem Kept.admit (h : Kept p inj calls base world S none) {k}
    (asks : served p calls c = .ask .enter k) (holding : Holding 0 (k (.ok true)))
    (phase : S.phase c = .playing (.ask .enter k)) (never : c ∉ S.admitted) (passed : c ∉ S.refused)
    (taken : (S.lock.enter (calls c).thread).1 = true) :
    Kept p inj calls base world { S with
      lock := (S.lock.enter (calls c).thread).2
      phase := update S.phase c (.playing (k (.ok true)))
      admitted := S.admitted ++ [c] } (some c) := by
  cases h.progress with
  | quiet quiet =>
    have enters : (base.enter (calls c).thread).1 = true := by rw [← quiet.lock]; exact taken
    refine ⟨?_, h.single_update rfl fun _ => by rw [phase]; rfl, .inside S.admitted [] 0
      (k (.ok true)) ?_, ?_⟩
    · simpa using List.Nodup.concat never h.once
    · refine ⟨rfl, passed, by simp, holding, enters, ?_, ?_, ?_, ?_⟩
      · rw [quiet.lock]
        rfl
      · simpa using quiet.made
      · rw [asks, ← quiet.world_eq]
        rfl
      · rw [asks, ← quiet.world_eq]
        rfl
    · exact h.standing_update rfl rfl (by simp) (fun _ _ => Iff.rfl) (fun x _ _ => by simp)
        fun hx => absurd rfl hx

/-- The call in progress stays in progress. -/
theorem Kept.go_on (h : Kept p inj calls base world S (some c)) (before : List κ)
    (part : List (Attempt τ)) (depth : Nat) {rest : Play τ Result} (admitted : T.admitted = S.admitted)
    (refused : T.refused = S.refused) (phases : T.phase = update S.phase c (.playing rest))
    (inside : Inside p inj calls base world T c before part depth rest) :
    Kept p inj calls base world T (some c) where
  once := by
    rw [admitted]
    exact h.once
  single := by
    obtain ⟨_, _, _, _, was⟩ := h.phase_of_current
    exact h.single_update phases fun _ => by rw [was.phase]; rfl
  progress := .inside before part depth rest inside
  standing := h.standing_update phases (admitted.trans (List.append_nil _).symm) (by simp)
    (fun _ _ => by rw [refused]) (fun _ _ hx => hx) fun hx => absurd rfl hx

theorem Kept.enter (hg : p.gestures.IsLevel) (h : Kept p inj calls base world S current) {k}
    (asks : S.phase c = .playing (.ask .enter k)) (taken : (S.lock.enter (calls c).thread).1 = true) :
    Kept p inj calls base world { S with
      lock := (S.lock.enter (calls c).thread).2
      phase := update S.phase c (.playing (k (.ok true)))
      admitted := if c ∈ S.admitted then S.admitted else S.admitted ++ [c] } (some c) := by
  by_cases same : current = some c
  · subst same
    obtain ⟨before, part, depth, rest, inside⟩ := h.phase_of_current
    obtain rfl := Phase.playing.inj (inside.phase.symm.trans asks)
    have mem : c ∈ S.admitted := by simp [inside.admitted]
    rw [if_pos mem]
    refine h.go_on before part (depth + 1) rfl rfl rfl ⟨inside.admitted, inside.passed, by simp, ?_,
      inside.enters, ?_, inside.made, inside.acts, inside.run⟩
    · cases inside.holding with
      | again holding => exact holding
      | act seen => cases seen
    · simp only [inside.lock, Lock.enter_taken inside.enters]
  · obtain ⟨k', first, hs, holding, -, never, passed⟩ := h.asks_enter hg same asks
    cases first
    rw [if_neg never]
    cases current with
    | none => exact h.admit hs holding asks never passed taken
    | some b =>
      obtain ⟨_, _, _, _, inside⟩ := h.phase_of_current
      rw [inside.lock] at taken
      -- the lock is owned by the thread of the call in progress, which has no other call
      have threads := Lock.owner_of_enter_taken inside.enters taken
      have live := h.single b c threads (by rw [inside.phase]; rfl) (by rw [asks]; rfl)
      exact absurd (congrArg some live) same

theorem Kept.refuse (hg : p.gestures.IsLevel) (h : Kept p inj calls base world S current) {k}
    (asks : S.phase c = .playing (.ask .enter k)) (held : (S.lock.enter (calls c).thread).1 = false) :
    Kept p inj calls base world { S with
      phase := update S.phase c (.playing (k (.ok false)))
      refused := S.refused ++ [c] } current := by
  have other : current ≠ some c := by
    rintro rfl
    obtain ⟨_, _, _, _, inside⟩ := h.phase_of_current
    rw [inside.lock, Lock.enter_taken inside.enters] at held
    cases held
  obtain ⟨k', first, -, -, busy, never, passed⟩ := h.asks_enter hg other asks
  cases first
  have others : ∀ x, x ≠ c → (x ∈ S.refused ++ [c] ↔ x ∈ S.refused) := by
    intro x ne
    simp [ne]
  refine ⟨h.once, h.single_update rfl fun _ => by rw [asks]; rfl,
    h.progress.update_other other rfl rfl rfl rfl rfl others, ?_⟩
  refine h.standing_update rfl (List.append_nil _).symm (by simp) others (fun _ _ hx => hx) fun _ => ?_
  rw [busy]
  exact .leaving (.refused (by simp) never)

theorem Kept.leave (hg : p.gestures.IsLevel) (h : Kept p inj calls base world S current) {k}
    (asks : S.phase c = .playing (.ask .leave k)) :
    ∃ next, Kept p inj calls base world { S with
      lock := S.lock.leave
      phase := update S.phase c (.playing (k (.ok ()))) } next := by
  by_cases same : current = some c
  · subst same
    obtain ⟨before, part, depth, rest, inside⟩ := h.phase_of_current
    obtain rfl := Phase.playing.inj (inside.phase.symm.trans asks)
    have left : S.lock.leave = base.taken (calls c).thread depth := by
      rw [inside.lock, Lock.leave_taken inside.enters]
    cases inside.holding with
    | act seen => cases seen
    | @back d _ holding =>
      exact ⟨some c, h.go_on before part d rfl rfl rfl ⟨inside.admitted, inside.passed, by simp, holding,
        inside.enters, left, inside.made, inside.acts, inside.run⟩⟩
    | @last _ outcome finished =>
      have run : inj.run (served p calls c) (worldAfter p inj calls world before) = (outcome, S.world) := by
        rw [inside.run]
        change inj.run (k (.ok ())) S.world = _
        rw [finished]
        rfl
      have acts : inj.acts (served p calls c) (worldAfter p inj calls world before) = part := by
        rw [inside.acts]
        change part ++ inj.acts (k (.ok ())) S.world = _
        rw [finished]
        exact List.append_nil _
      refine ⟨none, h.once, h.single_update rfl fun _ => by rw [asks]; rfl, .quiet ⟨left, ?_, ?_⟩, ?_⟩
      · simp only [inside.made, inside.admitted, blocks_concat, acts]
      · simp only [inside.admitted, worldAfter_concat, run]
      · refine h.standing_update rfl (List.append_nil _).symm (by simp) (fun _ _ => Iff.rfl)
          (fun x ne _ hx => ne (Option.some.inj hx).symm) fun _ => ?_
        have settled : Settled p inj calls world S c _ := .admitted before [] inside.admitted inside.passed
        rw [run] at settled
        rw [finished]
        exact .leaving (settled.later (List.append_nil _).symm (by simp) Iff.rfl)
  · obtain ⟨_, first, -⟩ := h.asks_enter hg same asks
    cases first

theorem Kept.act (hg : p.gestures.IsLevel) (h : Kept p inj calls base world S current)
    {r : PlayRequest τ} {k} (asks : S.phase c = .playing (.ask r k)) (seen : r.isAct = true) :
    Kept p inj calls base world { S with
      world := (inj.host r S.world).2
      phase := update S.phase c (.playing (k (inj.host r S.world).1))
      made := S.made ++ [(c, ⟨r, faultOf (inj.host r S.world).1⟩)] } current := by
  by_cases same : current = some c
  · subst same
    obtain ⟨before, part, depth, rest, inside⟩ := h.phase_of_current
    obtain rfl := Phase.playing.inj (inside.phase.symm.trans asks)
    refine h.go_on before (part ++ [⟨r, faultOf (inj.host r S.world).1⟩]) depth rfl rfl rfl
      ⟨inside.admitted, inside.passed, by simp, ?_, inside.enters, inside.lock, ?_, ?_, inside.run⟩
    · cases inside.holding with
      | act _ holding => exact holding _
      | again | back | last => cases seen
    · simp [inside.made]
    · have first : inj.acts (.ask r k) S.world =
          [⟨r, faultOf (inj.host r S.world).1⟩] ++
            inj.acts (k (inj.host r S.world).1) (inj.host r S.world).2 := by
        change (if r.isAct then _ else []) ++ _ = _
        rw [if_pos seen]
      rw [inside.acts, first, List.append_assoc]
  · obtain ⟨_, first, -⟩ := h.asks_enter hg same asks
    cases first
    cases seen

theorem Kept.exit (h : Kept p inj calls base world S current)
    {outcome : Except Fault Result} (done : S.phase c = .playing (.finish outcome)) :
    Kept p inj calls base world { S with phase := update S.phase c (.ended outcome) } current := by
  have other : current ≠ some c := by
    rintro rfl
    obtain ⟨_, _, _, _, inside⟩ := h.phase_of_current
    obtain rfl := Phase.playing.inj (inside.phase.symm.trans done)
    cases inside.holding
  refine h.move_other other (fun hx => by cases hx) (.ended ?_)
  have stands := h.standing c other
  rw [done] at stands
  generalize hp : Phase.playing (Program.finish outcome) = phase at stands
  cases stands with
  | waiting | asked | ended => cases hp
  | leaving settled =>
    cases hp
    exact settled
  | read never passed => exact .unread never passed (Phase.playing.inj hp).symm

theorem Kept.step (hg : p.gestures.IsLevel) (h : Kept p inj calls base world S current)
    (step : Step p inj calls S T) : ∃ next, Kept p inj calls base world T next := by
  cases step with
  | call new idle => exact ⟨_, h.call new idle⟩
  | read asked => exact ⟨_, h.read asked⟩
  | enter asks taken => exact ⟨_, h.enter hg asks taken⟩
  | refuse asks held => exact ⟨_, h.refuse hg asks held⟩
  | leave asks => exact h.leave hg asks
  | act asks seen => exact ⟨_, h.act hg asks seen⟩
  | exit done => exact ⟨_, h.exit done⟩

/-- The invariant holds however the steps of calls are ordered. -/
theorem Kept.reachable (hg : p.gestures.IsLevel)
    (steps : Relation.ReflTransGen (Step p inj calls) (Scene.opening base world) S) :
    ∃ current, Kept p inj calls base world S current := by
  induction steps with
  | refl => exact ⟨none, .opening⟩
  | tail _ step ih =>
    obtain ⟨current, h⟩ := ih
    exact h.step hg step

end Scene

end InputReplay
