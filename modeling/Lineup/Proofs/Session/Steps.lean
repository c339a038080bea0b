/-
  Lineup.Proofs.Session.Steps
  ───────────────────────────
  **WHAT A LINE DOES.**  A line adds one thing to the section it belongs to
  (`Section.Step`), and takes a draft on by one arrow of the reader's diagram
  (`Draft.Step`).  A line is taken exactly if there is such a step, whatever its number;
  the number is for the complaint about a line that is not taken.

  Main results:
    * `Section.add_eq_ok_iff`, `Draft.add_eq_ok_iff` — a line is taken exactly by a step;
    * `Draft.about_of_read`, `Draft.line?_of_finish` — the line that a complaint names.
-/
import Lineup.Proofs.Except
import Lineup.Session.Reader

namespace Lineup

/-! ## §1. Steps. -/

/-- What a line does to the section it belongs to. -/
inductive Section.Step : Section → Line → Section → Prop where
  | setsInformation {s : Section} {value : String} :
      Step s ⟨'i', value⟩ { s with information := some value }
  | setsConnection {s : Section} {value : String} {c : Connection} :
      Connection.ofChars? value.toList = some c →
      Step s ⟨'c', value⟩ { s with connection := some c }
  | addsBandwidth {s : Section} {value : String} {b : Bandwidth} :
      Bandwidth.ofChars? value.toList = some b →
      Step s ⟨'b', value⟩ { s with bandwidths := s.bandwidths ++ [b] }
  | addsAttribute {s : Section} {value : String} {a : Attribute} :
      Attribute.ofChars? value.toList = some a →
      Step s ⟨'a', value⟩ { s with attributes := s.attributes ++ [a] }
  | passesOver {s : Section} {l : Line} :
      l.key ∈ ['u', 'e', 'p', 'k', 'r', 'z'] → Step s l s

/-- What a line does to a draft. -/
inductive Draft.Step : Draft → Line → Draft → Prop where
  | version : Step start ⟨'v', "0"⟩ versioned
  | origin {value : String} {o : Origin} :
      Origin.ofChars? value.toList = some o → Step versioned ⟨'o', value⟩ (announced o)
  | name {o : Origin} {value : String} :
      Step (announced o) ⟨'s', value⟩ (header o value none .empty)
  | timing {o : Origin} {name value : String} {timing : Option Timing} {body : Section}
      {t : Timing} :
      Timing.ofChars? value.toList = some t →
      Step (header o name timing body) ⟨'t', value⟩ (header o name (timing <|> some t) body)
  | own {o : Origin} {name : String} {timing : Option Timing} {body body' : Section} {l : Line} :
      body.Step l body' → Step (header o name timing body) l (header o name timing body')
  | firstMedia {o : Origin} {name value : String} {t : Timing} {body : Section} {m : Media} :
      Media.ofChars? value.toList = some m →
      Step (header o name (some t) body) ⟨'m', value⟩ (media o name t body [] m)
  | nextMedia {o : Origin} {name value : String} {t : Timing} {body : Section}
      {done : List Media} {current m : Media} :
      Media.ofChars? value.toList = some m →
      Step (media o name t body done current) ⟨'m', value⟩
        (media o name t body (done ++ [current]) m)
  | ofMedia {o : Origin} {name : String} {t : Timing} {body body' : Section}
      {done : List Media} {current : Media} {l : Line} :
      current.body.Step l body' →
      Step (media o name t body done current) l
        (media o name t body done { current with body := body' })

/-! ## §2. Lines that are taken. -/

theorem Line.field_bind_eq_ok_iff {α β : Type} {l : Line} {n : Nat} {value : Option α}
    {f : α → Except SyntaxError β} {b : β} :
    (l.field n value >>= f) = .ok b ↔ ∃ a, value = some a ∧ f a = .ok b := by
  unfold field
  cases value with
  | none => simp [Bind.bind, Except.bind]
  | some a => simp [Bind.bind, Except.bind]

/-- The keys of the lines that a section takes. -/
theorem Section.Step.key {s s' : Section} {l : Line} (h : s.Step l s') :
    l.key ∈ ['i', 'c', 'b', 'a', 'u', 'e', 'p', 'k', 'r', 'z'] := by
  cases h with
  | passesOver hidle =>
    simp only [List.mem_cons] at hidle ⊢
    tauto
  | _ => simp

theorem Section.Step.key_ne {s s' : Section} {l : Line} (h : s.Step l s') :
    l.key ≠ 't' ∧ l.key ≠ 'm' := by
  have hkey := h.key
  constructor
  · rintro heq
    rw [heq] at hkey
    exact absurd hkey (by decide)
  · rintro heq
    rw [heq] at hkey
    exact absurd hkey (by decide)

theorem Section.add_eq_ok_iff {s s' : Section} {n : Nat} {l : Line} :
    s.add n l = .ok s' ↔ s.Step l s' := by
  obtain ⟨key, value⟩ := l
  constructor
  · intro h
    unfold add at h
    split at h
    · next hkey =>
      obtain rfl : key = 'i' := hkey
      obtain rfl := Except.ok.inj h
      exact .setsInformation
    · next hkey =>
      obtain rfl : key = 'c' := hkey
      obtain ⟨c, hc, h⟩ := Line.field_bind_eq_ok_iff.1 h
      obtain rfl := Except.ok.inj h
      exact .setsConnection hc
    · next hkey =>
      obtain rfl : key = 'b' := hkey
      obtain ⟨b, hb, h⟩ := Line.field_bind_eq_ok_iff.1 h
      obtain rfl := Except.ok.inj h
      exact .addsBandwidth hb
    · next hkey =>
      obtain rfl : key = 'a' := hkey
      obtain ⟨a, ha, h⟩ := Line.field_bind_eq_ok_iff.1 h
      obtain rfl := Except.ok.inj h
      exact .addsAttribute ha
    · split at h
      · next hidle =>
        obtain rfl := Except.ok.inj h
        exact .passesOver (of_decide_eq_true hidle)
      · cases h
  · intro h
    cases h with
    | setsInformation => rfl
    | setsConnection hc => exact Line.field_bind_eq_ok_iff.2 ⟨_, hc, rfl⟩
    | addsBandwidth hb => exact Line.field_bind_eq_ok_iff.2 ⟨_, hb, rfl⟩
    | addsAttribute ha => exact Line.field_bind_eq_ok_iff.2 ⟨_, ha, rfl⟩
    | passesOver hidle =>
      simp only [List.mem_cons, List.not_mem_nil, or_false] at hidle
      rcases hidle with rfl | rfl | rfl | rfl | rfl | rfl
      all_goals rfl

theorem Draft.add_eq_ok_iff {d d' : Draft} {n : Nat} {l : Line} :
    d.add n l = .ok d' ↔ d.Step l d' := by
  obtain ⟨key, value⟩ := l
  constructor
  · intro h
    unfold add at h
    split at h
    · next hkey =>
      obtain rfl : key = 'v' := hkey
      split at h
      · next hzero =>
        obtain rfl : value = "0" := hzero
        obtain rfl := Except.ok.inj h
        exact .version
      · cases h
    · cases h
    · next hkey =>
      obtain rfl : key = 'o' := hkey
      obtain ⟨o, ho, h⟩ := Line.field_bind_eq_ok_iff.1 h
      obtain rfl := Except.ok.inj h
      exact .origin ho
    · cases h
    · next hkey =>
      obtain rfl : key = 's' := hkey
      obtain rfl := Except.ok.inj h
      exact .name
    · cases h
    · next hkey =>
      obtain rfl : key = 't' := hkey
      obtain ⟨t, ht, h⟩ := Line.field_bind_eq_ok_iff.1 h
      obtain rfl := Except.ok.inj h
      exact .timing ht
    · cases h
    · next hkey =>
      obtain rfl : key = 'm' := hkey
      obtain ⟨m, hm, h⟩ := Line.field_bind_eq_ok_iff.1 h
      obtain rfl := Except.ok.inj h
      exact .firstMedia hm
    · cases h
    · next hkey =>
      obtain rfl : key = 'm' := hkey
      obtain ⟨m, hm, h⟩ := Line.field_bind_eq_ok_iff.1 h
      obtain rfl := Except.ok.inj h
      exact .nextMedia hm
    · obtain ⟨body, hbody, h⟩ := bind_eq_ok_iff.1 h
      obtain rfl := Except.ok.inj h
      exact .own (Section.add_eq_ok_iff.1 hbody)
    · obtain ⟨body, hbody, h⟩ := bind_eq_ok_iff.1 h
      obtain rfl := Except.ok.inj h
      exact .ofMedia (Section.add_eq_ok_iff.1 hbody)
    · cases h
  · intro h
    cases h with
    | version => rfl
    | origin ho => exact Line.field_bind_eq_ok_iff.2 ⟨_, ho, rfl⟩
    | name => rfl
    | timing ht => exact Line.field_bind_eq_ok_iff.2 ⟨_, ht, rfl⟩
    | firstMedia hm => exact Line.field_bind_eq_ok_iff.2 ⟨_, hm, rfl⟩
    | nextMedia hm => exact Line.field_bind_eq_ok_iff.2 ⟨_, hm, rfl⟩
    | own hown =>
      have hadd := Section.add_eq_ok_iff (n := n).2 hown
      have hkey := hown.key
      simp only [List.mem_cons, List.not_mem_nil, or_false] at hkey
      rcases hkey with rfl | rfl | rfl | rfl | rfl | rfl | rfl | rfl | rfl | rfl
      all_goals exact bind_eq_ok_iff.2 ⟨_, hadd, rfl⟩
    | ofMedia hown =>
      have hadd := Section.add_eq_ok_iff (n := n).2 hown
      have hkey := hown.key
      simp only [List.mem_cons, List.not_mem_nil, or_false] at hkey
      rcases hkey with rfl | rfl | rfl | rfl | rfl | rfl | rfl | rfl | rfl | rfl
      all_goals exact bind_eq_ok_iff.2 ⟨_, hadd, rfl⟩

/-! ## §3. Lines that are refused. -/

/-- A complaint that names no line but this one. -/
def SyntaxError.About (e : SyntaxError) (n : Nat) : Prop := ∀ k, e.line? = some k → k = n

theorem Line.about_of_field {α : Type} {l : Line} {n : Nat} {value : Option α} {e : SyntaxError}
    (h : l.field n value = .error e) : e.About n := by
  unfold field at h
  split at h
  · cases h
  · obtain rfl := Except.error.inj h
    rintro k ⟨⟩
    rfl

theorem Line.about_of_field_bind {α β : Type} {l : Line} {n : Nat} {value : Option α}
    {f : α → β} {e : SyntaxError}
    (h : (do return f (← l.field n value) : Except SyntaxError β) = .error e) : e.About n := by
  cases hfield : l.field n value with
  | error e' =>
    rw [hfield] at h
    obtain rfl := Except.error.inj h
    exact about_of_field hfield
  | ok a =>
    rw [hfield] at h
    cases h

theorem Section.about_of_add {s : Section} {n : Nat} {l : Line} {e : SyntaxError}
    (h : s.add n l = .error e) : e.About n := by
  unfold add at h
  split at h
  · cases h
  · exact Line.about_of_field_bind h
  · exact Line.about_of_field_bind h
  · exact Line.about_of_field_bind h
  · split at h
    · cases h
    · obtain rfl := Except.error.inj h
      rintro k ⟨⟩
      rfl

theorem Draft.about_of_add {d : Draft} {n : Nat} {l : Line} {e : SyntaxError}
    (h : d.add n l = .error e) : e.About n := by
  -- out of order, an invalid value, or what the section complains about
  have hown : ∀ {s : Section} {f : Section → Draft},
      (do return f (← s.add n l) : Except SyntaxError Draft) = .error e → e.About n := by
    intro s f hs
    cases hadd : s.add n l with
    | error e' =>
      rw [hadd] at hs
      obtain rfl := Except.error.inj hs
      exact Section.about_of_add hadd
    | ok s' =>
      rw [hadd] at hs
      cases hs
  have horder : ∀ {key : Char} {rule : OrderRule}, (SyntaxError.outOfOrder key n rule).About n := by
    rintro key rule k ⟨⟩
    rfl
  unfold add at h
  split at h
  · split at h
    · cases h
    · obtain rfl := Except.error.inj h
      rintro k ⟨⟩
  · obtain rfl := Except.error.inj h
    exact horder
  · exact Line.about_of_field_bind h
  · obtain rfl := Except.error.inj h
    exact horder
  · cases h
  · obtain rfl := Except.error.inj h
    exact horder
  · exact Line.about_of_field_bind h
  · obtain rfl := Except.error.inj h
    exact horder
  · exact Line.about_of_field_bind h
  · obtain rfl := Except.error.inj h
    exact horder
  · exact Line.about_of_field_bind h
  · exact hown h
  · exact hown h
  · obtain rfl := Except.error.inj h
    exact horder

/-- A complaint about a line names the line that was being read. -/
theorem Draft.about_of_read {d : Draft} {line : List Char × Nat} {e : SyntaxError}
    (h : d.read line = .error e) : e.About line.2 := by
  unfold read at h
  split at h
  · exact about_of_add h
  · obtain rfl := Except.error.inj h
    rintro k ⟨⟩
    rfl

theorem Draft.line?_of_finish {d : Draft} {e : SyntaxError} (h : d.finish = .error e) :
    e.line? = none := by
  unfold finish at h
  split at h
  · obtain rfl := Except.error.inj h
    rfl
  · obtain rfl := Except.error.inj h
    rfl
  · obtain rfl := Except.error.inj h
    rfl
  · obtain rfl := Except.error.inj h
    rfl
  · cases h
  · cases h

end Lineup
