/-
  Lineup.Proofs.Channel.Tokens
  ────────────────────────────
  **TOKENS ARE READ AS THE IDENTITIES THEY WERE MADE FROM.**

  Two readers look at the same six fields.  The value of an origin is cut at spaces and tabs
  and may hold no other white space; a token is cut at any white space, behind the `o=` in
  front of it.  They see the same words, because white space that does not separate the
  fields of a value does not stand in it (`words_of_origin`).  Only one `o=` is taken away,
  so a user name that starts with `o=` keeps its own.

  An identity forgets two texts of its origin.  Its address is written in one way only, so
  that text comes back; its version may have leading zeros, and that is all that two origins
  of one identity can differ in (`ofOrigin_eq_ok_iff`).

  Main results: `words_replaceWord`, `ofToken_of_words`, `ofToken_withVersion`.
-/
import Lineup.Channel.Identity
import Lineup.Proofs.Session.Grammar

namespace Lineup

/-! ## §1. Another word in the place of one. -/

namespace Text

/-- A text with `w` in the place of its word number `n`. What stands between the words, and the
other words, stay as they are. -/
def replaceWord (sep : Char → Bool) (w : List Char) : Nat → List Char → List Char
  | 0, cs => cs.takeWhile sep ++ (w ++ (cs.dropWhile sep).dropWhile (!sep ·))
  | n + 1, cs =>
    cs.takeWhile sep ++ ((cs.dropWhile sep).takeWhile (!sep ·) ++
      replaceWord sep w n ((cs.dropWhile sep).dropWhile (!sep ·)))

section Replacing

variable {sep : Char → Bool} {w : List Char}

/-- The first word of a text, and what follows it. -/
theorem exists_first_word {cs : List Char} (hne : words sep cs ≠ []) :
    IsWord sep ((cs.dropWhile sep).takeWhile (!sep ·)) ∧
      (∀ c, ((cs.dropWhile sep).dropWhile (!sep ·)).head? = some c → sep c = true) ∧
      words sep cs = (cs.dropWhile sep).takeWhile (!sep ·) ::
        words sep ((cs.dropWhile sep).dropWhile (!sep ·)) := by
  have hfront : ∀ c ∈ cs.takeWhile sep, sep c = true := fun c hc => List.mem_takeWhile_imp hc
  have hwords : words sep cs = words sep (cs.dropWhile sep) := by
    rw [← words_sep_append hfront (cs.dropWhile sep), List.takeWhile_append_dropWhile]
  have hhead : ∀ c, ((cs.dropWhile sep).dropWhile (!sep ·)).head? = some c → sep c = true := by
    intro c hc
    have hnot := List.head?_dropWhile_not (!sep ·) (cs.dropWhile sep)
    rw [hc] at hnot
    simpa using hnot
  have hword : IsWord sep ((cs.dropWhile sep).takeWhile (!sep ·)) := by
    constructor
    · -- a text with a word has a character that does not separate, and the first such starts it
      intro hnil
      cases hrest : cs.dropWhile sep with
      | nil =>
        rw [hwords, hrest] at hne
        exact hne rfl
      | cons c ds =>
        have hnot := List.head?_dropWhile_not sep cs
        rw [hrest] at hnot hnil
        have hc : sep c = false := by simpa using hnot
        rw [List.takeWhile_cons_of_pos (by simp [hc])] at hnil
        cases hnil
    · intro c hc
      have hc := List.mem_takeWhile_imp hc
      simpa using hc
  refine ⟨hword, hhead, ?_⟩
  rw [hwords, ← words_append_of_head hword hhead, List.takeWhile_append_dropWhile]

/-- A text that starts with a separator does so with another word in it as well. -/
theorem head?_replaceWord (n : Nat) {c : Char} (cs : List Char) (hc : sep c = true) :
    (replaceWord sep w n (c :: cs)).head? = some c := by
  cases n with
  | zero => rw [replaceWord, List.takeWhile_cons_of_pos hc, List.cons_append, List.head?_cons]
  | succ n => rw [replaceWord, List.takeWhile_cons_of_pos hc, List.cons_append, List.head?_cons]

/-- **Exactly the one word is another one.** -/
theorem words_replaceWord (hw : IsWord sep w) (n : Nat) (cs : List Char)
    (hn : n < (words sep cs).length) :
    words sep (replaceWord sep w n cs) = (words sep cs).set n w := by
  -- on the number of the word; the first word is either replaced or stepped over
  induction n generalizing cs with
  | zero =>
    have hne : words sep cs ≠ [] := List.ne_nil_of_length_pos hn
    obtain ⟨-, hhead, hwords⟩ := exists_first_word hne
    rw [replaceWord, words_sep_append fun c hc => List.mem_takeWhile_imp hc,
      words_append_of_head hw hhead, hwords, List.set_cons_zero]
  | succ n ih =>
    have hne : words sep cs ≠ [] := List.ne_nil_of_length_pos (by omega)
    obtain ⟨hword, hhead, hwords⟩ := exists_first_word hne
    rw [hwords, List.length_cons] at hn
    have hrest := ih ((cs.dropWhile sep).dropWhile (!sep ·)) (by omega)
    rw [replaceWord, words_sep_append fun c hc => List.mem_takeWhile_imp hc,
      words_append_of_head hword ?_, hrest, hwords, List.set_cons_succ]
    intro c hc
    cases hcs : (cs.dropWhile sep).dropWhile (!sep ·) with
    | nil =>
      rw [hcs, show words sep [] = [] from rfl, List.length_nil] at hn
      omega
    | cons d ds =>
      have hd := hhead d (by rw [hcs, List.head?_cons])
      rw [hcs, head?_replaceWord n ds hd] at hc
      rwa [← Option.some.inj hc]

end Replacing

end Text

open Text

/-! ## §2. What an identity keeps of its origin. -/

/-- The origin of a channel by its key and the text of a version. -/
def SessionKey.origin (k : SessionKey) (version : String) : Origin :=
  ⟨k.username, k.sessionId, version, "IN", "IP4", toString k.creator⟩

theorem readVersion_eq_ok_iff {text : String} {n : UInt64} : readVersion text = .ok n ↔
    text.toList.length ≤ maxVersionDigits ∧ digits64? text.toList = some n := by
  unfold readVersion
  by_cases hlen : text.toList.length ≤ maxVersionDigits
  · rw [if_pos hlen]
    cases digits64? text.toList with
    | none => simp
    | some m => simp [hlen]
  · simp [hlen]

theorem readVersion_decimal (n : UInt64) : readVersion (decimal n.toNat) = .ok n :=
  readVersion_eq_ok_iff.2 ⟨length_decimal_le n, digits64?_decimal n⟩

/-- A version is a word of a token. -/
theorem isWord_of_readVersion {text : String} {n : UInt64} (h : readVersion text = .ok n) :
    IsWord isWhite text.toList := by
  obtain ⟨-, hdigits⟩ := readVersion_eq_ok_iff.1 h
  obtain ⟨m, hm, -⟩ := Option.map_eq_some_iff.1 hdigits
  unfold digits? at hm
  split at hm
  · next hform =>
    exact ⟨hform.1, fun c hc => isWhite_of_isDigit (List.all_eq_true.1 hform.2.1 c hc)⟩
  · cases hm

namespace SessionIdentity

variable {i : SessionIdentity} {o : Origin} {k : SessionKey}

/-- The origin of a key gives an identity with that key, if its version is one. -/
theorem ofOrigin_origin (k : SessionKey) (version : String) :
    ofOrigin (k.origin version) = (readVersion version).map (SessionIdentity.mk k) := by
  have haddress : Ipv4.ofString? (k.origin version).address = some k.creator :=
    Ipv4.ofString?_toString k.creator
  have hversion : (k.origin version).sessionVersion = version := rfl
  unfold ofOrigin
  rw [if_neg (by simp [SessionKey.origin]), haddress, hversion]
  cases readVersion version with
  | error e => rfl
  | ok n => rfl

/-- **An origin gives an identity exactly if it is the origin of its key**, in some version that
can be read. -/
theorem ofOrigin_eq_ok_iff : ofOrigin o = .ok i ↔
    o = i.key.origin o.sessionVersion ∧ readVersion o.sessionVersion = .ok i.version := by
  constructor
  · intro h
    unfold ofOrigin at h
    split at h
    · cases h
    · next hfamily =>
      obtain ⟨hnet, haddr⟩ := not_or.1 hfamily
      split at h
      · cases h
      · next creator hcreator =>
        cases hversion : readVersion o.sessionVersion with
        | error e =>
          rw [hversion] at h
          cases h
        | ok n =>
          rw [hversion] at h
          obtain rfl := Except.ok.inj h
          refine ⟨?_, rfl⟩
          -- the address was read from the one text that it is written with
          obtain ⟨username, sessionId, version, netType, addrType, address⟩ := o
          obtain rfl : netType = "IN" := not_not.1 hnet
          obtain rfl : addrType = "IP4" := not_not.1 haddr
          obtain rfl := Ipv4.ofString?_eq_some_iff.1 hcreator
          rfl
  · intro h
    obtain ⟨horigin, hversion⟩ := h
    rw [horigin, ofOrigin_origin, hversion]
    rfl

/-! ## §3. Tokens and values. -/

/-- Two cuts of one value: what separates its fields is all the white space in it. -/
theorem words_of_origin {value : String} (h : Origin.ofChars? value.toList = some o) :
    words isWhite value.toList = o.fields := by
  obtain ⟨hfields, hfree⟩ := Origin.ofChars?_eq_some_iff.1 h
  rw [← hfields]
  apply words_eq_of_free
  · intro c hc
    exact isWhite_of_isBlank hc
  · intro w hw c hc
    rw [hfields] at hw
    exact (hfree w hw).2 c hc

/-- **A token is read as the origin whose fields are its words**, whatever white space there is
around and between them. -/
theorem ofToken_of_words {body : String} (h : words isWhite body.toList = o.fields) :
    ofToken ("o=" ++ body) = ofOrigin o := by
  have hstrip : stripToken ("o=" ++ body).toList = trimEnd body.toList := by
    rw [String.toList_append]
    show stripToken ('o' :: '=' :: body.toList) = _
    unfold stripToken
    rw [trim_cons (by decide), trimEnd_cons (by decide)]
    rfl
  have hwords : words isWhite (trimEnd body.toList) = o.fields := by
    obtain ⟨b, hb, hbody⟩ := exists_white_behind body.toList
    rw [hbody, words_append_seps _ hb] at h
    exact h
  unfold ofToken
  rw [hstrip, hwords]
  simp [Origin.fields]

/-- The written form of an identity is `o=` and the value of an origin. -/
theorem text_eq (i : SessionIdentity) :
    i.text = "o=" ++ (i.key.origin (decimal i.version.toNat)).toValue := by
  apply String.toList_inj.1
  rw [String.toList_append, Origin.toList_toValue]
  simp [text, SessionKey.origin, Origin.fields, List.intercalate_cons_cons]

/-- The words of a written identity are the fields of an origin of its key. -/
theorem words_toValue (ho : o.Printable) (h : ofOrigin o = .ok i) :
    words isWhite (i.key.origin (decimal i.version.toNat)).toValue.toList
      = (i.key.origin (decimal i.version.toNat)).fields := by
  obtain ⟨horigin, -⟩ := ofOrigin_eq_ok_iff.1 h
  rw [horigin] at ho
  have hprint : (i.key.origin (decimal i.version.toNat)).Printable :=
    ⟨ho.username, ho.sessionId, isWord_number _, ho.netType, ho.addrType, ho.address⟩
  exact words_of_toList (Origin.toList_toValue _) hprint.isWord

/-- What stands behind the `o=` of a token, with another version in the place of its own. -/
def withVersion (body version : String) : String :=
  .ofList (replaceWord isWhite version.toList 2 body.toList)

/-- **Another version gives the identity of the same key in that version.** -/
theorem ofToken_withVersion {body version version' : String} {n : UInt64}
    (h : words isWhite body.toList = (k.origin version).fields)
    (hversion : readVersion version' = .ok n) :
    ofToken ("o=" ++ withVersion body version') = .ok ⟨k, n⟩ := by
  have hwords : words isWhite (withVersion body version').toList = (k.origin version').fields := by
    unfold withVersion
    rw [String.toList_ofList, words_replaceWord (isWord_of_readVersion hversion), h]
    · rfl
    · rw [h]
      show 2 < 6
      omega
  rw [ofToken_of_words hwords, ofOrigin_origin, hversion]
  rfl

end SessionIdentity

end Lineup
