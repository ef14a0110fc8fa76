import Mathlib.Algebra.Ring.Parity
import Mathlib.Data.List.DropRight
import Mathlib.Data.List.Infix

/-! Content lines, the form in which calendars are exchanged: each line is ended by CRLF, a
line is a property name, a colon and a value, and a component is what stands between its
first and its last line. In a text value a backslash stands before a backslash, a semicolon
and a comma, and a line feed is written as an escape too. -/
namespace ScheduleSync

def OneLine (cs : List Char) : Prop := '\r' ∉ cs ∧ '\n' ∉ cs

instance : DecidablePred OneLine := fun cs => inferInstanceAs (Decidable ('\r' ∉ cs ∧ '\n' ∉ cs))

/-- The lines of a text, after the part `line` of the first one. CRLF, CR and LF all end a line. -/
def splitLines (line : List Char) : List Char → List (List Char)
  | [] => if line.isEmpty then [] else [line]
  | '\r' :: '\n' :: cs => line :: splitLines [] cs
  | c :: cs => if c = '\r' ∨ c = '\n' then line :: splitLines [] cs else splitLines (line ++ [c]) cs

def terminated (lines : List (List Char)) : List Char := lines.flatMap fun line => line ++ ['\r', '\n']

section Lines
variable {lines : List (List Char)} {line cs : List Char}

theorem OneLine.cons_iff {c : Char} : OneLine (c :: cs) ↔ (c ≠ '\r' ∧ c ≠ '\n') ∧ OneLine cs := by
  simp only [OneLine, List.mem_cons, not_or]
  constructor
  · rintro ⟨⟨hr, hrs⟩, hn, hns⟩
    exact ⟨⟨Ne.symm hr, Ne.symm hn⟩, hrs, hns⟩
  · rintro ⟨⟨hr, hn⟩, hrs, hns⟩
    exact ⟨⟨Ne.symm hr, hrs⟩, Ne.symm hn, hns⟩

theorem OneLine.append_iff {cs' : List Char} : OneLine (cs ++ cs') ↔ OneLine cs ∧ OneLine cs' := by
  simp only [OneLine, List.mem_append, not_or]
  tauto

theorem OneLine.of_forall (h : ∀ c ∈ cs, ' ' ≤ c) : OneLine cs :=
  ⟨fun hr => absurd (h _ hr) (by decide), fun hn => absurd (h _ hn) (by decide)⟩

theorem splitLines_cons {c : Char} (hr : c ≠ '\r') (hn : c ≠ '\n') (rest : List Char) :
    splitLines line (c :: rest) = splitLines (line ++ [c]) rest := by
  rw [splitLines]
  · exact if_neg (not_or.mpr ⟨hr, hn⟩)
  · exact fun _ heq => absurd heq hr

theorem splitLines_append (h : OneLine cs) (rest : List Char) :
    splitLines line (cs ++ rest) = splitLines (line ++ cs) rest := by
  induction cs generalizing line with
  | nil => rw [List.nil_append, List.append_nil]
  | cons c cs ih =>
    obtain ⟨⟨hr, hn⟩, hcs⟩ := OneLine.cons_iff.mp h
    rw [List.cons_append, splitLines_cons hr hn, ih hcs, List.append_assoc, List.singleton_append]

theorem splitLines_terminated (h : ∀ l ∈ lines, OneLine l) : splitLines [] (terminated lines) = lines := by
  induction lines with
  | nil => rfl
  | cons l ls ih =>
    obtain ⟨hl, hls⟩ := List.forall_mem_cons.mp h
    have hcons : terminated (l :: ls) = l ++ ('\r' :: '\n' :: terminated ls) := by simp [terminated]
    rw [hcons, splitLines_append hl, List.nil_append, splitLines, ih hls]

theorem count_terminated {c : Char} (hc : ['\r', '\n'].count c = 1) :
    (terminated lines).count c = lines.flatten.count c + lines.length := by
  induction lines with
  | nil => rfl
  | cons l ls ih =>
    have hcons : terminated (l :: ls) = l ++ (['\r', '\n'] ++ terminated ls) := by simp [terminated]
    rw [hcons, List.count_append, List.count_append, hc, ih, List.flatten_cons, List.count_append,
      List.length_cons]
    omega

theorem count_terminated_iff :
    ((terminated lines).count '\r' = lines.length ∧ (terminated lines).count '\n' = lines.length) ↔
      ∀ l ∈ lines, OneLine l := by
  have hzero : ∀ c, ['\r', '\n'].count c = 1 →
      ((terminated lines).count c = lines.length ↔ ∀ l ∈ lines, c ∉ l) := by
    intro c hc
    rw [count_terminated hc, Nat.add_eq_right, List.count_eq_zero, List.mem_flatten]
    simp only [not_exists, not_and]
  rw [hzero _ (by decide), hzero _ (by decide)]
  exact ⟨fun h l hl => ⟨h.1 l hl, h.2 l hl⟩, fun h => ⟨fun l hl => (h l hl).1, fun l hl => (h l hl).2⟩⟩

end Lines

/-! Text values. -/

def escaped : Char → Option Char
  | '\\' => some '\\'
  | ';' => some ';'
  | ',' => some ','
  | 'n' => some '\n'
  | 'N' => some '\n'
  | _ => none

def unescapeText : List Char → List Char
  | '\\' :: c :: cs =>
    match escaped c with
    | some d => d :: unescapeText cs
    | none => '\\' :: unescapeText (c :: cs)
  | c :: cs => c :: unescapeText cs
  | [] => []

def escapeChar (c : Char) : List Char :=
  if c = '\\' then ['\\', '\\']
  else if c = ';' then ['\\', ';']
  else if c = ',' then ['\\', ',']
  else if c = '\n' then ['\\', 'n']
  else [c]

def escapeText (cs : List Char) : List Char := cs.flatMap escapeChar

def backslashRun (cs : List Char) : List Char := cs.rtakeWhile fun c => c == '\\'

def EscapeFree (cs : List Char) : Prop := ∀ c, ['\\', c] <:+: cs → escaped c = none

section Text
variable {cs : List Char} {c : Char}

theorem escapeText_cons : escapeText (c :: cs) = escapeChar c ++ escapeText cs := List.flatMap_cons

theorem unescapeText_cons (h : c ≠ '\\') : unescapeText (c :: cs) = c :: unescapeText cs := by
  rw [unescapeText]
  exact fun _ _ heq => absurd heq h

theorem unescapeText_escape {d : Char} (h : escaped c = some d) :
    unescapeText ('\\' :: c :: cs) = d :: unescapeText cs := by
  rw [unescapeText, h]

theorem unescapeText_escapeText (cs : List Char) : unescapeText (escapeText cs) = cs := by
  induction cs with
  | nil => rfl
  | cons c cs ih =>
    rw [escapeText_cons, escapeChar]
    split_ifs with hbackslash hsemicolon hcomma hfeed
    · rw [hbackslash]
      exact (unescapeText_escape rfl).trans (congrArg _ ih)
    · rw [hsemicolon]
      exact (unescapeText_escape rfl).trans (congrArg _ ih)
    · rw [hcomma]
      exact (unescapeText_escape rfl).trans (congrArg _ ih)
    · rw [hfeed]
      exact (unescapeText_escape rfl).trans (congrArg _ ih)
    · rw [List.singleton_append, unescapeText_cons hbackslash, ih]

theorem oneLine_escapeText : OneLine (escapeText cs) ↔ '\r' ∉ cs := by
  induction cs with
  | nil => simp [OneLine, escapeText]
  | cons c cs ih =>
    have hchar : OneLine (escapeChar c) ↔ c ≠ '\r' := by
      unfold escapeChar
      split_ifs with hbackslash hsemicolon hcomma hfeed
      · simp [hbackslash, OneLine]
      · simp [hsemicolon, OneLine]
      · simp [hcomma, OneLine]
      · simp [hfeed, OneLine]
      · simp [OneLine, Ne.symm hfeed, eq_comm]
    rw [escapeText_cons, OneLine.append_iff, hchar, ih, List.mem_cons, not_or, ne_comm]

theorem escapeChar_cases (c : Char) :
    (∃ e, e ≠ '\n' ∧ escapeChar c = ['\\', e]) ∨
    (c ≠ '\\' ∧ c ≠ ';' ∧ c ≠ ',' ∧ c ≠ '\n') ∧ escapeChar c = [c] := by
  unfold escapeChar
  split_ifs with hbackslash hsemicolon hcomma hfeed
  · exact .inl ⟨'\\', by decide, rfl⟩
  · exact .inl ⟨';', by decide, rfl⟩
  · exact .inl ⟨',', by decide, rfl⟩
  · exact .inl ⟨'n', by decide, rfl⟩
  · exact .inr ⟨⟨hbackslash, hsemicolon, hcomma, hfeed⟩, rfl⟩

theorem newline_not_mem_escapeText (cs : List Char) : '\n' ∉ escapeText cs := by
  intro h
  obtain ⟨c, _, hc⟩ := List.mem_flatMap.mp h
  rcases escapeChar_cases c with ⟨e, he, heq⟩ | ⟨⟨_, _, _, hfeed⟩, heq⟩
  · rw [heq] at hc
    rcases List.mem_pair.mp hc with hslash | rfl
    · exact absurd hslash (by decide)
    · exact he rfl
  · rw [heq] at hc
    exact hfeed (List.mem_singleton.mp hc).symm

theorem escapeChar_separator {d : Char} {before after : List Char} (hc : c = ';' ∨ c = ',')
    (h : escapeChar d = before ++ c :: after) : before = ['\\'] := by
  have hbackslash : c ≠ '\\' := by rcases hc with rfl | rfl <;> decide
  rcases escapeChar_cases d with ⟨e, _, hd⟩ | ⟨⟨_, hsemicolon, hcomma, _⟩, hd⟩
  · rw [hd] at h
    rcases List.cons_eq_append_iff.mp h with ⟨_, heq⟩ | ⟨rest, rfl, heq⟩
    · exact absurd (List.cons.inj heq).1 hbackslash
    · rcases List.singleton_eq_append_iff.mp heq with ⟨rfl, _⟩ | ⟨_, hnil⟩
      · rfl
      · exact absurd hnil (List.cons_ne_nil _ _)
  · rw [hd] at h
    rcases List.singleton_eq_append_iff.mp h with ⟨_, heq⟩ | ⟨_, hnil⟩
    · obtain rfl : c = d := (List.cons.inj heq).1
      exact absurd hc (not_or.mpr ⟨hsemicolon, hcomma⟩)
    · exact absurd hnil (List.cons_ne_nil _ _)

theorem escapeText_separator {before after : List Char} (hc : c = ';' ∨ c = ',')
    (h : escapeText cs = before ++ c :: after) : ∃ part, before = escapeText part ++ ['\\'] := by
  induction cs generalizing before with
  | nil => exact absurd h.symm (List.append_ne_nil_of_right_ne_nil _ (List.cons_ne_nil _ _))
  | cons d ds ih =>
    rw [escapeText_cons] at h
    rcases List.append_eq_append_iff.mp h with ⟨middle, rfl, hrest⟩ | ⟨middle, hchar, hrest⟩
    · -- the separator comes after the escape of `d`
      obtain ⟨part, rfl⟩ := ih hrest
      exact ⟨d :: part, by rw [escapeText_cons, List.append_assoc]⟩
    · cases middle with
      | nil =>
        have hsplit : escapeText ds = [] ++ c :: after := hrest.symm
        obtain ⟨part, hpart⟩ := ih hsplit
        exact absurd hpart.symm (List.append_ne_nil_of_right_ne_nil _ (List.cons_ne_nil _ _))
      | cons e middle =>
        obtain rfl : c = e := (List.cons.inj hrest).1
        exact ⟨[], escapeChar_separator hc hchar⟩

theorem even_backslashRun (cs : List Char) : Even (backslashRun (escapeText cs)).length := by
  induction cs using List.reverseRecOn with
  | nil => exact ⟨0, rfl⟩
  | append_singleton cs c ih =>
    have happend : escapeText (cs ++ [c]) = escapeText cs ++ escapeChar c := by simp [escapeText]
    rw [happend]
    rcases escapeChar_cases c with ⟨e, _, hc⟩ | ⟨⟨hbackslash, _⟩, hc⟩
    · rw [hc, List.append_cons, backslashRun]
      by_cases he : e = '\\'
      · subst he
        rw [List.rtakeWhile_concat_pos _ _ _ (by decide), List.rtakeWhile_concat_pos _ _ _ (by decide),
          ← backslashRun, List.length_append, List.length_append, Nat.add_assoc]
        exact ih.add ⟨1, rfl⟩
      · rw [List.rtakeWhile_concat_neg _ _ _ (by simpa using he)]
        exact ⟨0, rfl⟩
    · rw [hc, backslashRun, List.rtakeWhile_concat_neg _ _ _ (by simpa using hbackslash)]
      exact ⟨0, rfl⟩

/-- A separator of an escaped text is itself escaped: the backslash before it ends no escape. -/
theorem odd_backslashRun {before after : List Char} (hc : c = ';' ∨ c = ',')
    (h : escapeText cs = before ++ c :: after) : Odd (backslashRun before).length := by
  obtain ⟨part, rfl⟩ := escapeText_separator hc h
  rw [backslashRun, List.rtakeWhile_concat_pos _ _ _ (by decide), ← backslashRun, List.length_append]
  exact (even_backslashRun part).add_one

theorem escapeFree_cons (h : c ≠ '\\') : EscapeFree (c :: cs) ↔ EscapeFree cs := by
  unfold EscapeFree
  refine forall_congr' fun x => ?_
  have hinitial : ¬ ['\\', x] <+: c :: cs := fun hpre => h (List.cons_prefix_cons.mp hpre).1.symm
  rw [List.infix_cons_iff, or_iff_right hinitial]

theorem escapeFree_backslash :
    EscapeFree ('\\' :: c :: cs) ↔ escaped c = none ∧ EscapeFree (c :: cs) := by
  constructor
  · intro h
    refine ⟨h c ⟨[], cs, rfl⟩, fun x hx => h x ?_⟩
    exact List.infix_cons_iff.mpr (.inr hx)
  · rintro ⟨hc, h⟩ x hx
    cases List.infix_cons_iff.mp hx with
    | inl hpre =>
      have hx : x = c := (List.cons_prefix_cons.mp (List.cons_prefix_cons.mp hpre).2).1
      rw [hx]
      exact hc
    | inr hin => exact h x hin

/-- Nothing after a character that begins and ends no escape matters to the text before it. -/
theorem escapeFree_append {d : Char} {rest : List Char} (hd : escaped d = none)
    (hrest : EscapeFree (d :: rest)) : EscapeFree (cs ++ d :: rest) ↔ EscapeFree cs := by
  induction cs with
  | nil =>
    refine iff_of_true hrest fun x hx => ?_
    simp at hx
  | cons c cs ih =>
    by_cases hc : c = '\\'
    · subst hc
      cases cs with
      | nil =>
        refine iff_of_true (escapeFree_backslash.mpr ⟨hd, hrest⟩) fun x hx => ?_
        have hlength := hx.length_le
        simp at hlength
      | cons e es =>
        rw [List.cons_append, List.cons_append, escapeFree_backslash, escapeFree_backslash,
          ← List.cons_append, ih]
    · rw [List.cons_append, escapeFree_cons hc, escapeFree_cons hc, ih]

theorem length_unescapeText_le (cs : List Char) : (unescapeText cs).length ≤ cs.length := by
  fun_induction unescapeText cs with
  | case1 c cs d hd ih =>
    simp only [List.length_cons]
    omega
  | case2 c cs hnone ih =>
    simp only [List.length_cons] at ih ⊢
    omega
  | case3 c cs hc ih =>
    simp only [List.length_cons]
    omega
  | case4 => exact le_rfl

theorem unescapeText_eq_self_iff : unescapeText cs = cs ↔ EscapeFree cs := by
  fun_induction unescapeText cs with
  | case1 c cs d hd ih =>
    -- an escape makes the text shorter
    refine iff_of_false (fun heq => ?_) fun hfree => ?_
    · have hlength := length_unescapeText_le cs
      have hsame := congrArg List.length heq
      simp only [List.length_cons] at hsame
      omega
    · rw [(escapeFree_backslash.mp hfree).1] at hd
      cases hd
  | case2 c cs hnone ih => rw [List.cons_inj_right, ih, escapeFree_backslash, and_iff_right hnone]
  | case3 c cs hc ih =>
    rw [List.cons_inj_right, ih]
    by_cases hbackslash : c = '\\'
    · subst hbackslash
      cases cs with
      | nil =>
        refine iff_of_true (fun x hx => ?_) fun x hx => ?_
        · simp at hx
        · have hlength := hx.length_le
          simp at hlength
      | cons d cs => exact absurd rfl (hc d cs rfl)
    · exact (escapeFree_cons hbackslash).symm
  | case4 =>
    refine iff_of_true rfl fun x hx => ?_
    simp at hx

end Text

/-! Components and properties. -/

/-- The components between the lines `opening` and `closing`; `body` is the part of the
current one that has been read, if there is one. -/
def components (opening closing : List Char) :
    Option (List (List Char)) → List (List Char) → List (List (List Char))
  | _, [] => []
  | none, l :: ls =>
    if l = opening then components opening closing (some []) ls else components opening closing none ls
  | some body, l :: ls =>
    if l = closing then body :: components opening closing none ls
    else components opening closing (some (body ++ [l])) ls

def valueOf : List Char → List Char → Option (List Char)
  | [], ':' :: value => some value
  | n :: name, c :: line => if n = c then valueOf name line else none
  | _, _ => none

def property (name : List Char) (lines : List (List Char)) : List (List Char) :=
  lines.filterMap (valueOf name)

section Properties
variable {name name' value : List Char}

theorem valueOf_append : valueOf name (name ++ ':' :: value) = some value := by
  induction name with
  | nil => rfl
  | cons n ns ih => rw [List.cons_append, valueOf, if_pos rfl, ih]

theorem valueOf_ne (h : ':' ∉ name) (h' : ':' ∉ name') (hne : name' ≠ name) :
    valueOf name (name' ++ ':' :: value) = none := by
  induction name generalizing name' with
  | nil =>
    cases name' with
    | nil => exact absurd rfl hne
    | cons c cs =>
      have hc : c ≠ ':' := fun heq => h' (heq ▸ List.mem_cons_self)
      simp [valueOf, hc]
  | cons n ns ih =>
    rw [List.mem_cons, not_or] at h
    cases name' with
    | nil => rw [List.nil_append, valueOf, if_neg (Ne.symm h.1)]
    | cons c cs =>
      rw [List.mem_cons, not_or] at h'
      rw [List.cons_append, valueOf]
      by_cases hc : n = c
      · rw [if_pos hc]
        exact ih h.2 h'.2 fun heq => hne (by rw [heq, hc])
      · exact if_neg hc

theorem property_fields {fields : List (List Char × List Char)} (h : ':' ∉ name)
    (hfields : ∀ f ∈ fields, ':' ∉ f.1) : property name (fields.map fun f => f.1 ++ ':' :: f.2) =
      (fields.filter fun f => decide (f.1 = name)).map Prod.snd := by
  induction fields with
  | nil => rfl
  | cons f fs ih =>
    obtain ⟨hf, hfs⟩ := List.forall_mem_cons.mp hfields
    rw [List.map_cons, property, List.filterMap_cons, List.filter_cons]
    by_cases heq : f.1 = name
    · rw [heq, valueOf_append]
      simpa [property] using ih hfs
    · rw [valueOf_ne h hf heq]
      simpa [property, heq] using ih hfs

end Properties

section Components
variable {opening closing : List Char} {body lines rest : List (List Char)}

theorem components_skip (h : opening ∉ lines) :
    components opening closing none (lines ++ rest) = components opening closing none rest := by
  induction lines with
  | nil => rfl
  | cons l ls ih =>
    rw [List.mem_cons, not_or] at h
    rw [List.cons_append, components, if_neg (Ne.symm h.1), ih h.2]

theorem components_body (h : closing ∉ lines) :
    components opening closing (some body) (lines ++ closing :: rest) =
      (body ++ lines) :: components opening closing none rest := by
  induction lines generalizing body with
  | nil => rw [List.nil_append, List.append_nil, components, if_pos rfl]
  | cons l ls ih =>
    rw [List.mem_cons, not_or] at h
    rw [List.cons_append, components, if_neg (Ne.symm h.1), ih h.2, List.append_assoc, List.singleton_append]

theorem components_flatMap {bodies : List (List (List Char))} (h : ∀ b ∈ bodies, closing ∉ b) :
    components opening closing none ((bodies.flatMap fun b => opening :: b ++ [closing]) ++ rest) =
      bodies ++ components opening closing none rest := by
  induction bodies with
  | nil => rfl
  | cons b bs ih =>
    obtain ⟨hb, hbs⟩ := List.forall_mem_cons.mp h
    rw [List.flatMap_cons, List.append_assoc, List.append_assoc, List.cons_append, components,
      if_pos rfl, List.singleton_append, components_body hb, ih hbs]
    rfl

end Components
end ScheduleSync
