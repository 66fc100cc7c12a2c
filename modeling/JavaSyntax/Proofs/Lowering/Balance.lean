import JavaSyntax.Proofs.Lowering.Counter

/-!
# Balance — the counter of depth comes back to where it was

Entering a construct raises the counter and leaving it lowers it, whatever is found inside; so every
lowering gives the counter back as it got it, with a result and with an error alike. From this it
follows that the two moves of a level are inverse to each other: the guard lets the counter be raised
only below the limit, which a machine word holds, and it is lowered from one above zero. Neither move
is ever cut off.

How the counter moves cannot be seen in an answer, so runs are told once more with a log of all moves
(`Lowering.log`, `enterLog`). What is said of the log is said of the runs themselves: without its log a
logged run is the run that it logs, step by step.

* `Lowering.count_snd`, `enter_snd`: the counter at the end is the counter at the start;
* `enter_eq`: how a construct is entered, without any mention of room;
* `Lowering.log_fst`, `enterLog_fst`: logging changes no answer and no counter;
* `Lowering.walk_log`: the logged moves lead from the start back to it, by one at a time and within
  the limit.
-/

namespace JavaSyntax

variable {α : Type} {source : String} {limit room room' depth : Nat}

/-! ## Balance -/

/-- A run gives the counter back if every request does. -/
theorem Lowering.count_snd
    {counted : (construct : Construct) → RawNode → Nat → Counted construct.Result}
    (h : ∀ construct raw depth, (counted construct raw depth).2 = depth)
    (x : Lowering α) (depth : Nat) : (x.count counted depth).2 = depth := by
  rw [count_eq_of_kept fun construct raw => h construct raw depth]

/-- **A construct gives the counter back**, whether it is lowered or refused. -/
theorem enter_snd (small : limit ≤ counterLimit) (construct : Construct) (raw : RawNode)
    (depth : Nat) : (enter source limit room construct raw depth).2 = depth := by
  induction room generalizing construct raw depth with
  | zero => rfl
  | succ room ih =>
    rw [enter]
    split
    case isTrue => rfl
    case isFalse closed =>
      show (Lowering.count _ _ _).2 - 1 = depth
      rw [Lowering.count_snd ih]
      omega

/-! ## Room -/

/-- Two runs agree if their requests agree at the depth where they start, and give it back. -/
theorem Lowering.count_congr
    {counted counted' : (construct : Construct) → RawNode → Nat → Counted construct.Result}
    (same : ∀ construct raw, counted construct raw depth = counted' construct raw depth)
    (kept : ∀ construct raw, (counted construct raw depth).2 = depth) (x : Lowering α) :
    x.count counted depth = x.count counted' depth := by
  rw [count_eq_of_kept kept, count_eq_of_kept fun construct raw => same construct raw ▸ kept _ _]
  simp only [same]

/-- Room makes no difference once it is what the limit leaves. -/
theorem enter_eq_of_room (small : limit ≤ counterLimit) (h : limit - depth ≤ room)
    (h' : limit - depth ≤ room') (construct : Construct) (raw : RawNode) :
    enter source limit room construct raw depth = enter source limit room' construct raw depth := by
  induction room generalizing room' construct raw depth with
  | zero =>
    -- nothing is left, so the guard closes on the other side as well
    cases room' with
    | zero => rfl
    | succ room' => rw [enter, enter, if_pos (by omega)]
  | succ room ih =>
    cases room' with
    | zero => rw [enter, enter, if_pos (by omega)]
    | succ room' =>
      rw [enter, enter]
      split
      case isTrue => rfl
      case isFalse closed =>
        have deeper : min (depth + 1) counterLimit = depth + 1 := by omega
        have left : limit - (depth + 1) ≤ room := by omega
        have left' : limit - (depth + 1) ≤ room' := by omega
        have inside := Lowering.count_congr (ih left left')
          (fun construct raw => enter_snd small construct raw (depth + 1))
          (Lowering.body source construct raw)
        rw [deeper, inside]

/-- **How a construct is entered.** At the limit it is refused; below the limit the counter is raised
by one, the construct is lowered, and the counter is lowered by one. -/
theorem enter_eq (small : limit ≤ counterLimit) (construct : Construct) (raw : RawNode)
    (depth : Nat) :
    enter source limit limit construct raw depth =
      if limit ≤ depth then (.error (raw.tooDeep limit), depth)
      else
        let answer := (Lowering.body source construct raw).count (enter source limit limit)
          (depth + 1)
        (answer.1, answer.2 - 1) := by
  rw [enter_eq_of_room small (Nat.sub_le limit depth) (Nat.le_succ_of_le (Nat.sub_le limit depth)),
    enter]
  split
  case isTrue => rfl
  case isFalse closed =>
    have deeper : min (depth + 1) counterLimit = depth + 1 := by omega
    rw [deeper]

/-! ## Moves -/

/-- A change of the counter: from what and to what. -/
inductive Move where
  | raise (before after : Nat)
  | lower (before after : Nat)
  deriving DecidableEq, Repr

/-- Whether the counter is within the limit before a move and after it. -/
def Move.Within (limit : Nat) : Move → Prop
  | raise before after => before ≤ limit ∧ after ≤ limit
  | lower before after => before ≤ limit ∧ after ≤ limit

/-! ## Logged runs -/

/-- An answer with the depth at which it was given, and the moves of the counter before it. -/
abbrev Logged (α : Type) : Type := Counted α × List Move

/-- Runs a lowering from the given depth as `Lowering.count` does, and logs the moves that its requests
make; the run itself never moves the counter. -/
def Lowering.log
    (below : (construct : Construct) → RawNode → Nat → Logged construct.Result) :
    Lowering α → Nat → Logged α
  | done value, depth => ((.ok value, depth), [])
  | refuse error, depth => ((.error error, depth), [])
  | nested construct raw next, depth =>
    match below construct raw depth with
    | ((.ok result, after), moves) =>
      let rest := (next result).log below after
      (rest.1, moves ++ rest.2)
    | ((.error error, after), moves) => ((.error error, after), moves)

/-- Enters and leaves a construct as `enter` does, and logs both moves around those inside. A construct
that is refused at the limit makes no move. -/
def enterLog (source : String) (limit : Nat) :
    (room : Nat) → (construct : Construct) → RawNode → Nat → Logged construct.Result
  | 0, _, raw, depth => ((.error (raw.tooDeep limit), depth), [])
  | room + 1, construct, raw, depth =>
    if limit ≤ depth then ((.error (raw.tooDeep limit), depth), [])
    else
      let raised := min (depth + 1) counterLimit
      let logged := (Lowering.body source construct raw).log (enterLog source limit room) raised
      let last := logged.1.2
      ((logged.1.1, last - 1), .raise depth raised :: (logged.2 ++ [.lower last (last - 1)]))

/-- Without its log a run is the run that it logs, if this holds of every request. -/
theorem Lowering.log_fst
    {logged : (construct : Construct) → RawNode → Nat → Logged construct.Result}
    {counted : (construct : Construct) → RawNode → Nat → Counted construct.Result}
    (same : ∀ construct raw depth, (logged construct raw depth).1 = counted construct raw depth)
    (x : Lowering α) (depth : Nat) : (x.log logged depth).1 = x.count counted depth := by
  induction x generalizing depth with
  | done a => rfl
  | refuse error => rfl
  | nested construct raw next ih =>
    rw [log, count, ← same construct raw depth]
    generalize logged construct raw depth = given
    rcases given with ⟨⟨error | result, after⟩, moves⟩
    · rfl
    · exact ih result after

/-- **Logging changes nothing.** Without its log a construct is entered, lowered and left as ever. -/
theorem enterLog_fst (construct : Construct) (raw : RawNode) (depth : Nat) :
    (enterLog source limit room construct raw depth).1 =
      enter source limit room construct raw depth := by
  induction room generalizing construct raw depth with
  | zero => rfl
  | succ room ih =>
    rw [enterLog, enter]
    split
    case isTrue => rfl
    case isFalse closed => simp only [Lowering.log_fst ih]

/-! ## Walks -/

/-- Whether moves lead from one depth to another: each starts where the one before it ended, goes up
or down by exactly one, and does not leave the depths from zero to the limit. -/
inductive Walk (limit : Nat) : Nat → List Move → Nat → Prop where
  | stay (depth : Nat) : Walk limit depth [] depth
  | raise {depth stop : Nat} {moves : List Move} (below : depth < limit)
      (rest : Walk limit (depth + 1) moves stop) :
      Walk limit depth (.raise depth (depth + 1) :: moves) stop
  | lower {depth stop : Nat} {moves : List Move} (below : depth < limit)
      (rest : Walk limit depth moves stop) :
      Walk limit (depth + 1) (.lower (depth + 1) depth :: moves) stop

namespace Walk

variable {start middle stop : Nat} {moves later : List Move}

theorem append (h : Walk limit start moves middle) (h' : Walk limit middle later stop) :
    Walk limit start (moves ++ later) stop := by
  induction h with
  | stay depth => exact h'
  | raise below _ ih => exact .raise below (ih h')
  | lower below _ ih => exact .lower below (ih h')

/-- The counter stays within the limit on a walk. -/
theorem within (h : Walk limit start moves stop) : ∀ move ∈ moves, move.Within limit := by
  induction h with
  | stay depth => exact fun move hm => absurd hm List.not_mem_nil
  | raise below _ ih => exact List.forall_mem_cons.mpr ⟨⟨Nat.le_of_lt below, below⟩, ih⟩
  | lower below _ ih => exact List.forall_mem_cons.mpr ⟨⟨below, Nat.le_of_lt below⟩, ih⟩

end Walk

/-- The moves of a run lead back to its start if those of every request do. -/
theorem Lowering.walk_log_of
    {logged : (construct : Construct) → RawNode → Nat → Logged construct.Result}
    (kept : ∀ construct raw depth, (logged construct raw depth).1.2 = depth)
    (walks : ∀ construct raw depth, Walk limit depth (logged construct raw depth).2 depth)
    (x : Lowering α) (depth : Nat) : Walk limit depth (x.log logged depth).2 depth := by
  induction x with
  | done a => exact .stay depth
  | refuse error => exact .stay depth
  | nested construct raw next ih =>
    rw [log]
    have back := kept construct raw depth
    have around := walks construct raw depth
    generalize logged construct raw depth = given at back around
    rcases given with ⟨⟨error | result, after⟩, moves⟩
    · exact around
    · -- the counter is back at the start, so the rest of the run walks on from there
      obtain rfl : after = depth := back
      exact around.append (ih result)

/-- The moves of a construct lead back to where it was entered: up by one, around inside, and down by
one. -/
theorem walk_enterLog (small : limit ≤ counterLimit) (construct : Construct) (raw : RawNode)
    (depth : Nat) : Walk limit depth (enterLog source limit room construct raw depth).2 depth := by
  induction room generalizing construct raw depth with
  | zero => exact .stay depth
  | succ room ih =>
    rw [enterLog]
    split
    case isTrue => exact .stay depth
    case isFalse closed =>
      have below : depth < limit := Nat.lt_of_not_le closed
      have deeper : min (depth + 1) counterLimit = depth + 1 := by omega
      have keeps (construct : Construct) (raw : RawNode) (depth : Nat) :
          (enterLog source limit room construct raw depth).1.2 = depth := by
        rw [enterLog_fst, enter_snd small]
      have kept : ((Lowering.body source construct raw).log (enterLog source limit room)
          (depth + 1)).1.2 = depth + 1 := by
        rw [Lowering.log_fst enterLog_fst, Lowering.count_snd (enter_snd small)]
      have around := Lowering.walk_log_of keeps ih (Lowering.body source construct raw) (depth + 1)
      simp only [deeper, kept, Nat.add_sub_cancel]
      exact .raise below (around.append (.lower below (.stay depth)))

/-- **The counter moves by one at a time, within the limit, and comes back.** -/
theorem Lowering.walk_log (small : limit ≤ counterLimit) (x : Lowering α) (depth : Nat) :
    Walk limit depth (x.log (enterLog source limit room) depth).2 depth := by
  refine walk_log_of (fun construct raw depth => ?_) (walk_enterLog small) x depth
  rw [enterLog_fst, enter_snd small]

end JavaSyntax
