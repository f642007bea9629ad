import Mathlib.Logic.Function.Basic
import Mathlib.Data.List.Basic

/-!
# Reassembling messages

Messages travel on streams, one after the other, and each arrives in pieces. Pieces of different
streams may alternate. `Assembly` puts the messages together again, stream by stream.

`Carries` is the other side: what a transport service may do with the messages it is given, if it
keeps the order on each stream and marks the last piece of each message. The two are inverse to
each other, `Carries.tracks`.
-/

namespace Reassembly

variable {K T α : Type} [DecidableEq K]

/-! ## Section 1: Messages and pieces -/

/-- A message: what it is labelled with, and its contents. -/
abbrev Message (T α : Type) := T × List α

/-- A piece of a message. -/
structure Piece (K T α : Type) where
  /-- The stream it arrives on. -/
  key : K
  tag : T
  data : List α
  /-- Whether this is the last piece of its message. -/
  last : Bool

/-- What arrives: a piece, or the news that the message a stream is in the middle of will not be
    completed. -/
inductive Arrival (K T α : Type)
  | piece (p : Piece K T α)
  | abort (key : K)

/-! ## Section 2: Reassembly -/

/-- An unfinished message, or a new one if there is none, with more data. The label is the one of
    the first piece. -/
def extend (unfinished : Option (Message T α)) (tag : T) (data : List α) : Message T α :=
  match unfinished with
  | none => (tag, data)
  | some (tag', data') => (tag', data' ++ data)

/-- What has arrived so far. -/
structure Assembly (K T α : Type) where
  /-- The messages the streams are in the middle of. -/
  unfinished : K → Option (Message T α)
  /-- The completed messages, in order of completion. -/
  completed : List (K × Message T α)

namespace Assembly

/-- Nothing has arrived. -/
def empty : Assembly K T α := ⟨fun _ => none, []⟩

/-- Something arrives. -/
def arrive (a : Assembly K T α) : Arrival K T α → Assembly K T α
  | .piece p =>
    let message := extend (a.unfinished p.key) p.tag p.data
    if p.last then
      { unfinished := Function.update a.unfinished p.key none
        completed := a.completed ++ [(p.key, message)] }
    else
      { a with unfinished := Function.update a.unfinished p.key (some message) }
  | .abort key => { a with unfinished := Function.update a.unfinished key none }

/-- The completed messages of one stream. -/
def completedOn (a : Assembly K T α) (key : K) : List (Message T α) :=
  (a.completed.filter (·.1 = key)).map Prod.snd

variable (a : Assembly K T α)

theorem arrive_last {p : Piece K T α} (h : p.last = true) :
    a.arrive (.piece p) = ⟨Function.update a.unfinished p.key none,
      a.completed ++ [(p.key, extend (a.unfinished p.key) p.tag p.data)]⟩ := by
  simp [arrive, h]

theorem arrive_more {p : Piece K T α} (h : p.last = false) :
    a.arrive (.piece p) = ⟨Function.update a.unfinished p.key
      (some (extend (a.unfinished p.key) p.tag p.data)), a.completed⟩ := by
  simp [arrive, h]

/-- A stream is not affected by what arrives on another one. -/
theorem unfinished_arrive_of_ne {p : Piece K T α} {key : K} (h : key ≠ p.key) :
    (a.arrive (.piece p)).unfinished key = a.unfinished key := by
  cases hlast : p.last with
  | true =>
    rw [arrive_last a hlast]
    exact Function.update_of_ne h _ _
  | false =>
    rw [arrive_more a hlast]
    exact Function.update_of_ne h _ _

theorem completedOn_arrive_of_ne {p : Piece K T α} {key : K} (h : key ≠ p.key) :
    (a.arrive (.piece p)).completedOn key = a.completedOn key := by
  cases hlast : p.last with
  | true => simp [arrive_last a hlast, completedOn, h.symm]
  | false => rw [arrive_more a hlast, completedOn, completedOn]

end Assembly

/-! ## Section 3: Carrying messages -/

/-- One piece is carried: some of the first message on a stream, or the rest of it. Pieces are
    not empty. -/
inductive Carry (w : K → List (Message T α)) :
    Piece K T α → (K → List (Message T α)) → Prop where
  | more (key : K) (tag : T) (data rest : List α) (messages : List (Message T α)) :
      w key = (tag, data ++ rest) :: messages → data ≠ [] → rest ≠ [] →
      Carry w ⟨key, tag, data, false⟩ (Function.update w key ((tag, rest) :: messages))
  | last (key : K) (tag : T) (data : List α) (messages : List (Message T α)) :
      w key = (tag, data) :: messages → data ≠ [] →
      Carry w ⟨key, tag, data, true⟩ (Function.update w key messages)

/-- The pieces `ps` are carried, from what is on its way in `w` to what is on its way in `w'`. -/
inductive Carries (w : K → List (Message T α)) :
    List (Piece K T α) → (K → List (Message T α)) → Prop where
  | nil : Carries w [] w
  | snoc {w' w'' : K → List (Message T α)} {ps : List (Piece K T α)} {p : Piece K T α} :
      Carries w ps w' → Carry w' p w'' → Carries w (ps ++ [p]) w''

theorem Carries.eq_of_nil {w w' : K → List (Message T α)} (h : Carries w [] w') : w' = w := by
  generalize hps : ([] : List (Piece K T α)) = ps at h
  cases h with
  | nil => rfl
  | snoc => simp at hps

theorem Carries.concat {w w'' : K → List (Message T α)} {ps : List (Piece K T α)} {p : Piece K T α}
    (h : Carries w (ps ++ [p]) w'') : ∃ w', Carries w ps w' ∧ Carry w' p w'' := by
  generalize hqs : ps ++ [p] = qs at h
  cases h with
  | nil => simp at hqs
  | snoc hqs' hq =>
    obtain ⟨rfl, heq⟩ := List.append_inj' hqs rfl
    obtain rfl := List.singleton_inj.mp heq
    exact ⟨_, hqs', hq⟩

/-- The messages of a stream that are not completed: the first one consists of what has arrived
    of it and what has not. -/
def remaining : Option (Message T α) → List (Message T α) → List (Message T α)
  | none, messages => messages
  | some (tag, data), (_, rest) :: messages => (tag, data ++ rest) :: messages
  | some _, [] => []

/-- What has arrived of a message fits what has not. -/
def Joins : Option (Message T α) → List (Message T α) → Prop
  | none, _ => True
  | some (tag, _), messages => ∃ rest messages', messages = (tag, rest) :: messages'

/-- How far an assembly has come with the messages `total`. -/
structure Tracks (total : K → List (Message T α)) (a : Assembly K T α)
    (w : K → List (Message T α)) : Prop where
  joins : ∀ key, Joins (a.unfinished key) (w key)
  total_eq : ∀ key, a.completedOn key ++ remaining (a.unfinished key) (w key) = total key

theorem tracks_empty (total : K → List (Message T α)) : Tracks total .empty total :=
  ⟨fun _ => trivial, fun _ => rfl⟩

/-- If what has arrived of a message fits the rest, more of it is put behind what has arrived. -/
theorem Joins.extend {u : Option (Message T α)} {tag : T} {rest : List α}
    {messages : List (Message T α)} (h : Joins u ((tag, rest) :: messages)) (data : List α) :
    ∃ before, extend u tag data = (tag, before ++ data) ∧
      ∀ data', remaining u ((tag, data') :: messages) = (tag, before ++ data') :: messages := by
  cases u with
  | none => exact ⟨[], rfl, fun _ => rfl⟩
  | some m =>
    obtain ⟨tag', before⟩ := m
    obtain ⟨_, _, heq⟩ := h
    obtain ⟨rfl, -⟩ := Prod.mk.inj (List.cons.inj heq).1
    exact ⟨before, rfl, fun _ => rfl⟩

variable {total : K → List (Message T α)} {a : Assembly K T α} {w w' : K → List (Message T α)}

/-- The piece that is carried next belongs to the message that is completed next. -/
theorem Tracks.next (h : Tracks total a w) {p : Piece K T α} (hp : Carry w p w') :
    ∃ before rest, extend (a.unfinished p.key) p.tag p.data = (p.tag, before ++ p.data) ∧
      p.data ≠ [] ∧ (p.last = true → rest = []) ∧ (p.last = false → rest ≠ []) ∧
      (p.tag, before ++ (p.data ++ rest)) ∈ total p.key := by
  have hjoins := h.joins p.key
  have htotal := h.total_eq p.key
  cases hp with
  | more key tag data rest messages hw hdata hrest =>
    simp only [hw] at hjoins htotal ⊢
    obtain ⟨before, hextend, hremaining⟩ := hjoins.extend data
    refine ⟨before, rest, hextend, hdata, by simp, fun _ => hrest, ?_⟩
    rw [← htotal, hremaining]
    simp
  | last key tag data messages hw hdata =>
    simp only [hw] at hjoins htotal ⊢
    obtain ⟨before, hextend, hremaining⟩ := hjoins.extend data
    refine ⟨before, [], hextend, hdata, fun _ => rfl, by simp, ?_⟩
    rw [← htotal, hremaining]
    simp

/-- When a piece arrives, only its own stream has to be looked at. -/
theorem Tracks.arrive (h : Tracks total a w) {p : Piece K T α}
    (hw' : ∀ key, key ≠ p.key → w' key = w key)
    (hjoins : Joins ((a.arrive (.piece p)).unfinished p.key) (w' p.key))
    (htotal : (a.arrive (.piece p)).completedOn p.key ++
      remaining ((a.arrive (.piece p)).unfinished p.key) (w' p.key) = total p.key) :
    Tracks total (a.arrive (.piece p)) w' := by
  refine ⟨?_, ?_⟩
  · intro key
    by_cases hkey : key = p.key
    · subst hkey
      exact hjoins
    · rw [a.unfinished_arrive_of_ne hkey, hw' key hkey]
      exact h.joins key
  · intro key
    by_cases hkey : key = p.key
    · subst hkey
      exact htotal
    · rw [a.completedOn_arrive_of_ne hkey, a.unfinished_arrive_of_ne hkey, hw' key hkey]
      exact h.total_eq key

/-- A piece that is carried arrives. -/
theorem Tracks.carry (h : Tracks total a w) {p : Piece K T α} (hp : Carry w p w') :
    Tracks total (a.arrive (.piece p)) w' := by
  have hjoins := h.joins p.key
  have htotal := h.total_eq p.key
  cases hp with
  | more key tag data rest messages hw hdata hrest =>
    rw [hw] at hjoins htotal
    obtain ⟨before, hextend, hremaining⟩ := hjoins.extend data
    have hsome : (a.arrive (.piece ⟨key, tag, data, false⟩)).unfinished key =
        some (tag, before ++ data) := by
      rw [a.arrive_more rfl, hextend]
      exact Function.update_self _ _ _
    have hsame : (a.arrive (.piece ⟨key, tag, data, false⟩)).completedOn key =
        a.completedOn key := by
      rw [a.arrive_more rfl]
      rfl
    apply h.arrive (fun key' hkey => Function.update_of_ne hkey _ _)
    · rw [hsome, Function.update_self]
      exact ⟨rest, messages, rfl⟩
    · rw [hsome, hsame, Function.update_self, ← htotal, hremaining, remaining, List.append_assoc]
  | last key tag data messages hw hdata =>
    rw [hw] at hjoins htotal
    obtain ⟨before, hextend, hremaining⟩ := hjoins.extend data
    have hnone : (a.arrive (.piece ⟨key, tag, data, true⟩)).unfinished key = none := by
      rw [a.arrive_last rfl]
      exact Function.update_self _ _ _
    have hmore : (a.arrive (.piece ⟨key, tag, data, true⟩)).completedOn key =
        a.completedOn key ++ [(tag, before ++ data)] := by
      rw [a.arrive_last rfl, hextend]
      simp [Assembly.completedOn]
    apply h.arrive (fun key' hkey => Function.update_of_ne hkey _ _)
    · rw [hnone]
      trivial
    · rw [hnone, hmore, Function.update_self, ← htotal, hremaining, remaining, List.append_assoc,
        List.singleton_append]

/-- **Reassembly is inverse to carrying.** -/
theorem Carries.tracks {ps : List (Piece K T α)} (h : Carries total ps w) :
    Tracks total (ps.foldl (fun a p => a.arrive (.piece p)) .empty) w := by
  induction h with
  | nil => exact tracks_empty total
  | snoc _ hp ih =>
    rw [List.foldl_append]
    exact ih.carry hp

/-- When nothing is on its way any more, all messages have been completed. -/
theorem Tracks.completedOn_eq (h : Tracks total a w) {key : K} (hw : w key = []) :
    a.completedOn key = total key := by
  have hjoins := h.joins key
  have htotal := h.total_eq key
  rw [hw] at hjoins htotal
  cases hu : a.unfinished key with
  | none => simpa [hu, remaining] using htotal
  | some m =>
    rw [hu] at hjoins
    obtain ⟨_, _, heq⟩ := hjoins
    cases heq

/-! ## Section 4: The pieces of one stream -/

/-- The messages that the pieces complete, if `begun` has arrived of the first one. Each piece is
    marked if it is the last one of its message. -/
def assembled (begun : List α) : List (List α × Bool) → List (List α)
  | [] => []
  | (data, true) :: pieces => (begun ++ data) :: assembled [] pieces
  | (data, false) :: pieces => assembled (begun ++ data) pieces

/-- What has arrived of the message that is not completed. -/
def remainder (begun : List α) : List (List α × Bool) → List α
  | [] => begun
  | (_, true) :: pieces => remainder [] pieces
  | (data, false) :: pieces => remainder (begun ++ data) pieces

theorem assembled_append (begun : List α) (pieces pieces' : List (List α × Bool)) :
    assembled begun (pieces ++ pieces') =
      assembled begun pieces ++ assembled (remainder begun pieces) pieces' := by
  induction pieces generalizing begun with
  | nil => rfl
  | cons p pieces ih =>
    obtain ⟨data, last⟩ := p
    cases last with
    | true => exact congrArg (_ :: ·) (ih [])
    | false => exact ih (begun ++ data)

theorem remainder_append (begun : List α) (pieces pieces' : List (List α × Bool)) :
    remainder begun (pieces ++ pieces') = remainder (remainder begun pieces) pieces' := by
  induction pieces generalizing begun with
  | nil => rfl
  | cons p pieces ih =>
    obtain ⟨data, last⟩ := p
    cases last with
    | true => exact ih []
    | false => exact ih (begun ++ data)

end Reassembly
