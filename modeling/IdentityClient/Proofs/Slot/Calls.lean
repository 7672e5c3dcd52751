import IdentityClient.Proofs.Slot.Guarded

/-!
# Calls, and what they come to one after the other

What a call has done is read off the history: it begins with the event `called` of its thread and ends with
`returned` (`completed`). In between the thread may have run its constructor (`ran?`). `Sequential` says what
calls come to that are made one after the other, each alone with the slot, and `Linearizes` that overlapping
calls can be put in such an order: none stands before a call that had returned when it was made.
-/

namespace IdentityClient.Slot

variable {α : Type}

def Event.thread : Event α → Thread
  | .called t | .started t | .ended t _ | .returned t _ | .got t _ => t

def Event.isCall (t : Thread) : Event α → Bool
  | .called u => u == t
  | _ => false

/-- How the constructor of thread `t` ends. -/
def Event.ending? (t : Thread) : Event α → Option (Outcome α)
  | .ended u o => if u = t then some o else none
  | _ => none

/-- What had happened when thread `t` made its latest call. -/
def beforeCall (t : Thread) (h : List (Event α)) : List (Event α) := (h.dropWhile fun e => !e.isCall t).tail

/-- What has happened since. -/
def sinceCall (t : Thread) (h : List (Event α)) : List (Event α) := h.takeWhile fun e => !e.isCall t

/-- What the constructor came to that thread `t` has run in its latest call. -/
def ran? (t : Thread) (h : List (Event α)) : Option (Outcome α) := (sinceCall t h).findSome? (Event.ending? t)

/-- A call that has returned, with the times of its beginning and its end; events are counted. -/
structure Call (α : Type) where
  thread : Thread
  made : Nat
  back : Nat
  /-- What its own constructor came to, if it ran. -/
  built : Option (Outcome α)
  outcome : Outcome α

/-- The call of thread `t` that returns `o` after all that has happened. -/
def Call.ofReturn (t : Thread) (o : Outcome α) (h : List (Event α)) : Call α :=
  ⟨t, (beforeCall t h).length, h.length, ran? t h, o⟩

/-- The calls that have returned, the latest first. -/
def completed : List (Event α) → List (Call α)
  | [] => []
  | .returned t o :: h => .ofReturn t o h :: completed h
  | .called _ :: h | .started _ :: h | .ended _ _ :: h | .got _ _ :: h => completed h

/-- What an outcome leaves in an empty slot. -/
def Outcome.value? : Outcome α → Option α
  | .value v => some v
  | .failed _ | .panicked => none

theorem Outcome.value?_eq_some {o : Outcome α} {v : α} : o.value? = some v ↔ o = .value v := by
  cases o <;> simp [value?]

theorem Outcome.value?_eq_none {o : Outcome α} : o.value? = none ↔ ∀ v, o ≠ .value v := by
  cases o <;> simp [value?]

/-- What calls come to that are made one after the other to a slot that holds `stored`: each takes what is
stored and constructs nothing, or comes to what its own constructor comes to. -/
inductive Sequential : (stored : Option α) → List (Call α) → Prop
  | nil {stored : Option α} : Sequential stored []
  | takes {v : α} {c : Call α} {l : List (Call α)} : c.built = none → c.outcome = .value v →
      Sequential (some v) l → Sequential (some v) (c :: l)
  | constructs {c : Call α} {l : List (Call α)} : c.built = some c.outcome →
      Sequential c.outcome.value? l → Sequential none (c :: l)

/-- The calls that have returned, in an order in which they could have been made one after the other. -/
structure Linearizes (h : List (Event α)) (order : List (Call α)) : Prop where
  complete : order.Perm (completed h)
  realTime : order.Pairwise fun c d => ¬ d.back < c.made
  sequential : Sequential none order

section
variable {t u : Thread} {e : Event α} {o : Outcome α} {h older : List (Event α)} {c d : Call α}

theorem beforeCall_cons (he : e.isCall t = false) (h : List (Event α)) : beforeCall t (e :: h) = beforeCall t h := by
  simp [beforeCall, he]

theorem sinceCall_cons (he : e.isCall t = false) (h : List (Event α)) :
    sinceCall t (e :: h) = e :: sinceCall t h := by
  simp [sinceCall, he]

theorem ran?_cons (he : e.isCall t = false) (hn : e.ending? t = none) (h : List (Event α)) :
    ran? t (e :: h) = ran? t h := by
  simp [ran?, sinceCall_cons he, hn]

theorem sinceCall_called (t : Thread) (h : List (Event α)) : sinceCall t (.called t :: h) = [] := by
  simp [sinceCall, Event.isCall]

theorem ran?_called (t : Thread) (h : List (Event α)) : ran? t (.called t :: h) = none := by
  rw [ran?, sinceCall_called]
  rfl

theorem ran?_ended (t : Thread) (o : Outcome α) (h : List (Event α)) : ran? t (.ended t o :: h) = some o := by
  rw [ran?, sinceCall_cons rfl]
  simp [Event.ending?]

theorem isCall_of_ne (he : e.thread ≠ t) : e.isCall t = false := by
  cases e <;> first | rfl | simpa [Event.isCall, Event.thread] using he

theorem ending?_of_ne (he : e.thread ≠ t) : e.ending? t = none := by
  cases e <;> first | rfl | simpa [Event.ending?, Event.thread] using he

theorem beforeCall_suffix (t : Thread) (h : List (Event α)) : beforeCall t h <:+ h :=
  (List.tail_suffix _).trans (List.dropWhile_suffix _)

/-- All that has happened was before the latest call of a thread, or is that call, or has happened since. -/
theorem mem_beforeCall (hm : e ∈ h) (hc : e.isCall t = false) (hs : e ∉ sinceCall t h) : e ∈ beforeCall t h := by
  induction h with
  | nil => cases hm
  | cons x h ih =>
    cases hx : x.isCall t with
    | true =>
      rcases List.mem_cons.1 hm with rfl | hm
      · cases hc.symm.trans hx
      · simpa [beforeCall, hx] using hm
    | false =>
      rw [sinceCall_cons hx, List.mem_cons, not_or] at hs
      rw [beforeCall_cons hx]
      exact ih ((List.mem_cons.1 hm).resolve_left hs.1) hs.2

theorem mem_of_ran? (hr : ran? t h = some o) : .ended t o ∈ h := by
  obtain ⟨e, he, ho⟩ := List.exists_of_findSome?_eq_some hr
  have mem : e ∈ h := (List.takeWhile_sublist _).mem he
  cases e with
  | ended u o' =>
    by_cases hu : u = t
    · subst u
      simp only [Event.ending?, if_true, Option.some.injEq] at ho
      rwa [ho] at mem
    · simp [Event.ending?, hu] at ho
  | _ => cases ho

theorem mem_completed : c ∈ completed h ↔ ∃ t o older, .returned t o :: older <:+ h ∧ c = .ofReturn t o older := by
  induction h with
  | nil => simp [completed]
  | cons e h ih =>
    have skip (hc : completed (e :: h) = completed h) (he : ∀ t o, e ≠ .returned t o) :
        c ∈ completed (e :: h) ↔ ∃ t o older, .returned t o :: older <:+ e :: h ∧ c = .ofReturn t o older := by
      rw [hc, ih]
      simp only [List.suffix_cons_iff, List.cons.injEq]
      constructor
      · rintro ⟨t, o, older, hs, rfl⟩
        exact ⟨t, o, older, .inr hs, rfl⟩
      · rintro ⟨t, o, older, ⟨hx, -⟩ | hs, rfl⟩
        · exact absurd hx.symm (he t o)
        · exact ⟨t, o, older, hs, rfl⟩
    cases e with
    | returned t o =>
      simp only [completed, List.mem_cons, ih, List.suffix_cons_iff, List.cons.injEq, Event.returned.injEq]
      constructor
      · rintro (rfl | ⟨u, o', older, hs, rfl⟩)
        · exact ⟨t, o, h, .inl ⟨⟨rfl, rfl⟩, rfl⟩, rfl⟩
        · exact ⟨u, o', older, .inr hs, rfl⟩
      · rintro ⟨u, o', older, ⟨⟨rfl, rfl⟩, rfl⟩ | hs, rfl⟩
        · exact .inl rfl
        · exact .inr ⟨u, o', older, hs, rfl⟩
    | _ => exact skip rfl nofun

theorem made_le_back (hc : c ∈ completed h) : c.made ≤ c.back := by
  obtain ⟨t, o, older, -, rfl⟩ := mem_completed.1 hc
  exact (beforeCall_suffix t older).length_le

theorem back_lt_length (hc : c ∈ completed h) : c.back < h.length := by
  obtain ⟨t, o, older, hs, rfl⟩ := mem_completed.1 hc
  exact hs.length_le

theorem completed_pairwise (h : List (Event α)) : (completed h).Pairwise fun c d => d.back < c.back := by
  induction h with
  | nil => exact .nil
  | cons e h ih =>
    cases e with
    | returned t o => exact List.pairwise_cons.2 ⟨fun d hd => back_lt_length hd, ih⟩
    | _ => exact ih

theorem mem_of_back_lt (hd : d ∈ completed h) (hs : older <:+ h) (hlt : d.back < older.length) :
    .returned d.thread d.outcome ∈ older := by
  obtain ⟨u, o, young, hy, rfl⟩ := mem_completed.1 hd
  have inside : .returned u o :: young <:+ older := List.suffix_of_suffix_length_le hy hs hlt
  exact inside.subset (List.mem_cons_self ..)

end

end IdentityClient.Slot
