import SqlDraft.Proofs.Filling
import SqlDraft.Proofs.Lines
import SqlDraft.Proofs.Stripping

/-!
# Colouring

A formatter with colours wraps the name of a level in its codes before it fills its template. Without the codes
its text is the one that a formatter without colours makes, unless a directive quotes the name of a level, cuts
it, or has to fill up its field. What stands below the line of a record is the same in both.

* `Directive.Recovers`, `recovers_self`, `recovers_coloured`, `recovers_dict`: values that a directive writes
  alike, but for codes.
* `Directive.Carries`, `fillPieces_carries`: dictionaries that all directives of a template write alike, but for
  codes.
* `Record.Unescaped`: the records none of whose texts has an escape character.
* `Directive.SparesName`: the directives that write a level name in colour as they write it without.
* `Formatter.OnlyColours`, `onlyColours_of_spared`: the templates and records of which colours change nothing else.
-/

namespace SqlDraft

/-! ## Values written alike -/

theorem Conversion.letter_of_ofChar? {letter : Char} {c : Conversion} (h : ofChar? letter = some c) :
    match c with
    | shown => letter = 's'
    | quoted => letter = 'r'
    | escaped => letter = 'a'
    | character => letter = 'c'
    | decimal | based _ | real .. => True := by
  unfold ofChar? at h
  split at h <;> cases h <;> trivial

/-- What a directive writes of the first value is what it writes of the second, but for codes. -/
def Directive.Recovers (d : Directive) (v v' : Value) : Prop :=
  ∀ letter c cs, d.conversion = some letter → Conversion.ofChar? letter = some c →
    c.write letter d.frame v = .ok cs → ∃ cs', c.write letter d.frame v' = .ok cs' ∧ Tints cs' cs

namespace Directive

variable {d : Directive} {v v' : Value}

theorem recovers_self (hv : v.Unescaped) (hnumber : d.conversion = some 'c' → v ≠ .int escapeMark.toNat) :
    d.Recovers v v := by
  intro letter c cs hconversion hletter hwrite
  refine ⟨cs, hwrite, .of_unescaped (Conversion.unescaped_of_write hv ?_ hwrite)⟩
  rintro rfl
  obtain rfl : letter = 'c' := Conversion.letter_of_ofChar? hletter
  exact hnumber hconversion

/-- Two values that a directive writes alike. -/
theorem tints_of_write_eq (hv : v.Unescaped) {c : Conversion} (hc : c ≠ .character) {letter : Char}
    {cs : List Char} (hsame : c.write letter d.frame v' = c.write letter d.frame v)
    (hwrite : c.write letter d.frame v = .ok cs) :
    ∃ cs', c.write letter d.frame v' = .ok cs' ∧ Tints cs' cs :=
  ⟨cs, hsame.trans hwrite, .of_unescaped (Conversion.unescaped_of_write hv (fun h => absurd h hc) hwrite)⟩

/-- The directives that write one character or none of a value. -/
def CutsToOne (d : Directive) : Prop := ∃ p ≤ 1, d.precision = .given p

theorem CutsToOne.textField_eq (h : d.CutsToOne) {cs ds : List Char} (hhead : cs.head? = ds.head?) :
    textField d.frame cs = textField d.frame ds := by
  obtain ⟨p, hp, hprecision⟩ := h
  have hcut : d.frame.precision = some p := by rw [frame, hprecision]; rfl
  have htake : cs.take 1 = ds.take 1 := by rw [List.take_one, List.take_one, hhead]
  rw [textField_of_cut hcut, textField_of_cut hcut]
  obtain rfl | rfl : p = 0 ∨ p = 1 := by omega
  · rfl
  · rw [htake]

theorem head?_escapeBeyondAscii {cs ds : List Char} (h : cs.head? = ds.head?) :
    (escapeBeyondAscii cs).head? = (escapeBeyondAscii ds).head? := by
  have hpiece (c : Char) : ∃ e es, (if c.toNat < 128 then [c] else escapeCode c.toNat) = e :: es := by
    unfold escapeCode
    repeat' split
    all_goals exact ⟨_, _, rfl⟩
  cases cs with
  | nil =>
    cases ds with
    | nil => rfl
    | cons => cases h
  | cons c cs =>
    cases ds with
    | nil => cases h
    | cons =>
      cases h
      obtain ⟨e, es, hes⟩ := hpiece c
      rw [escapeBeyondAscii, escapeBeyondAscii, List.flatMap_cons, List.flatMap_cons, hes]
      rfl

/-- Two values whose quoted forms start alike, in quoted form and cut to one character. -/
theorem write_quoted (h : d.CutsToOne) {s s' : String} (hs : v.quoted = .ok s) (hs' : v'.quoted = .ok s')
    (hhead : s.toList.head? = s'.toList.head?) (letter : Char) :
    Conversion.quoted.write letter d.frame v' = Conversion.quoted.write letter d.frame v ∧
      Conversion.escaped.write letter d.frame v' = Conversion.escaped.write letter d.frame v := by
  have hquoted := h.textField_eq hhead
  have hescaped := h.textField_eq (head?_escapeBeyondAscii hhead)
  constructor
  · rw [Conversion.write, Conversion.write, Conversion.field, Conversion.field, hs, hs', ok_bind, ok_bind, hquoted]
  · rw [Conversion.write, Conversion.write, Conversion.field, Conversion.field, hs, hs', ok_bind, ok_bind, hescaped]

/-- A level name in colour. -/
theorem recovers_coloured {name colour : String} (h : IsColoured name colour)
    (hshown : d.conversion = some 's' → d.precision = .given 0 ∨
      d.width.number?.getD 0 ≤ name.toList.length ∧
        ∀ p, d.precision.number? = some p → p = name.toList.length + 5 ∨ name.toList.length + 9 ≤ p)
    (hquoted : d.conversion = some 'r' ∨ d.conversion = some 'a' → d.CutsToOne) :
    d.Recovers (.text name) (.text (inColour colour name)) := by
  intro letter c cs hconversion hletter hwrite
  have hname : (Value.text name).Unescaped := .of_text h.unescaped
  have hplain : (Value.text name).quoted = .ok (quotedText name) := rfl
  have hcoloured : (Value.text (inColour colour name)).quoted = .ok (quotedText (inColour colour name)) := rfl
  have hhead : (quotedText name).toList.head? = (quotedText (inColour colour name)).toList.head? := by
    rw [quotedText, quotedText, String.toList_ofList, String.toList_ofList, quotedChars, quotedChars, h.quote,
      h.quoteInColour]
    rfl
  have hletter' := Conversion.letter_of_ofChar? hletter
  cases c with
  | shown =>
    obtain rfl : letter = 's' := hletter'
    cases hwrite
    refine ⟨_, rfl, ?_⟩
    rcases hshown hconversion with hnone | ⟨hwidth, hprecision⟩
    · have hcut : d.frame.precision = some 0 := by rw [frame, hnone]; rfl
      rw [textField_of_cut hcut, textField_of_cut hcut, List.take_zero, List.take_zero]
      exact .of_unescaped ((FieldText.Unescaped.plain .nil).laid _ _)
    · exact h.tints_field hwidth hprecision _
  | quoted =>
    obtain rfl : letter = 'r' := hletter'
    have hsame := write_quoted (hquoted (.inl hconversion)) hplain hcoloured hhead 'r'
    exact tints_of_write_eq hname (by decide) hsame.1 hwrite
  | escaped =>
    obtain rfl : letter = 'a' := hletter'
    have hsame := write_quoted (hquoted (.inr hconversion)) hplain hcoloured hhead 'a'
    exact tints_of_write_eq hname (by decide) hsame.2 hwrite
  | decimal | based | real => cases hwrite
  | character =>
    obtain ⟨t, ht, -⟩ := map_eq_ok_iff.mp hwrite
    obtain ⟨ch, hch, -⟩ := bind_eq_ok_iff.mp ht
    have hlong := h.long
    rw [characterValue] at hch
    split at hch
    · rename_i heq
      rw [heq] at hlong
      exact absurd hlong (Nat.lt_irrefl 1)
    · cases hch

theorem head?_of_quoted_dict {es : Entries} {s : String} (h : (Value.dict es).quoted = .ok s) :
    s.toList.head? = some '\x7b' := by
  obtain ⟨ss, -, rfl⟩ := map_eq_ok_iff.mp h
  rw [String.toList_append, String.toList_append]
  rfl

/-- A dictionary in place of another one. -/
theorem recovers_dict {es es' : Entries}
    (hexists : (∃ s, (Value.dict es).quoted = .ok s) → ∃ s, (Value.dict es').quoted = .ok s)
    (hcut : d.conversion = some 's' ∨ d.conversion = some 'r' ∨ d.conversion = some 'a' → d.CutsToOne) :
    d.Recovers (.dict es) (.dict es') := by
  intro letter c cs hconversion hletter hwrite
  have hletter' := Conversion.letter_of_ofChar? hletter
  have hes : (Value.dict es).Unescaped := nofun
  -- A dictionary stands for itself in quoted form, so there is nothing else to write of it.
  have hsame (hd : d.CutsToOne) (hquoted : ∃ s, (Value.dict es).quoted = .ok s) :
      Conversion.quoted.write letter d.frame (.dict es') = Conversion.quoted.write letter d.frame (.dict es) ∧
        Conversion.escaped.write letter d.frame (.dict es') =
          Conversion.escaped.write letter d.frame (.dict es) := by
    obtain ⟨s, hs⟩ := hquoted
    obtain ⟨s', hs'⟩ := hexists ⟨s, hs⟩
    exact write_quoted hd hs hs' ((head?_of_quoted_dict hs).trans (head?_of_quoted_dict hs').symm) letter
  cases c with
  | shown =>
    obtain rfl : letter = 's' := hletter'
    obtain ⟨t, ht, -⟩ := map_eq_ok_iff.mp hwrite
    obtain ⟨s, hs, -⟩ := bind_eq_ok_iff.mp ht
    exact tints_of_write_eq hes (by decide) (hsame (hcut (.inl hconversion)) ⟨s, hs⟩).1 hwrite
  | quoted =>
    obtain rfl : letter = 'r' := hletter'
    obtain ⟨t, ht, -⟩ := map_eq_ok_iff.mp hwrite
    obtain ⟨s, hs, -⟩ := bind_eq_ok_iff.mp ht
    exact tints_of_write_eq hes (by decide) (hsame (hcut (.inr (.inl hconversion))) ⟨s, hs⟩).1 hwrite
  | escaped =>
    obtain rfl : letter = 'a' := hletter'
    obtain ⟨t, ht, -⟩ := map_eq_ok_iff.mp hwrite
    obtain ⟨s, hs, -⟩ := bind_eq_ok_iff.mp ht
    exact tints_of_write_eq hes (by decide) (hsame (hcut (.inr (.inr hconversion))) ⟨s, hs⟩).2 hwrite
  | decimal | based | real | character => cases hwrite

end Directive

/-! ## Templates -/

/-- A directive that writes the second of two dictionaries as the first, but for codes. -/
structure Directive.Carries (d : Directive) (e e' : Value) : Prop where
  entry : ∀ key v, d.key = .named key → e.entry key = .ok v → ∃ v', e'.entry key = .ok v' ∧ d.Recovers v v'
  whole : d.key = .absent → d.Recovers e e'

/-- Two dictionaries one of which stands in place of the other, both untouched or both taken. -/
def InPlace (e e' : Value) (next next' : Option Value) : Prop :=
  next = none ∧ next' = none ∨ next = some e ∧ next' = some e'

theorem Directive.Carries.finds {d : Directive} {e e' v : Value} {next next' : Option Value}
    (h : d.Carries e e') (hnext : InPlace e e' next next') (hfinds : d.key.Finds e next v) :
    ∃ v', d.key.Finds e' next' v' ∧ d.Recovers v v' := by
  obtain ⟨hkey, hv⟩ | ⟨key, hkey, hentry⟩ := hfinds
  · obtain ⟨rfl, -⟩ | ⟨rfl, rfl⟩ := hnext
    · cases hv
    · cases hv
      exact ⟨e', .inl ⟨hkey, rfl⟩, h.whole hkey⟩
  · obtain ⟨v', hv', hrecovers⟩ := h.entry key v hkey hentry
    exact ⟨v', .inr ⟨key, hkey, hv'⟩, hrecovers⟩

theorem Directive.Carries.fill {d : Directive} {position : Nat} {e e' : Value} {next next' : Option Value}
    (h : d.Carries e e') (hnext : InPlace e e' next next') {cs : List Char} {s : Supply}
    (hfill : d.fill position (.dictionary e next) = .ok (cs, s)) :
    s = .dictionary e none ∧
      ∃ cs', d.fill position (.dictionary e' next') = .ok (cs', .dictionary e' none) ∧ Tints cs' cs := by
  obtain ⟨v, letter, c, hfinds, hwidth, hprecision, hconversion, hletter, hwrite, rfl⟩ :=
    fill_dictionary_iff.mp hfill
  obtain ⟨v', hfinds', hrecovers⟩ := h.finds hnext hfinds
  obtain ⟨cs', hwrite', hstrips⟩ := hrecovers letter c cs hconversion hletter hwrite
  exact ⟨rfl, cs', fill_dictionary_iff.mpr ⟨v', letter, c, hfinds', hwidth, hprecision, hconversion, hletter,
    hwrite', rfl⟩, hstrips⟩

/-- Pieces of a template, all of whose directives write a dictionary as another one, but for codes. -/
theorem fillPieces_carries {ps : List Piece} {e e' : Value} {next next' : Option Value}
    (hchars : ∀ c, .char c ∈ ps → c ≠ escapeMark)
    (hdirectives : ∀ d position, .directive d position ∈ ps → d.Carries e e')
    (hnext : InPlace e e' next next') {cs : List Char}
    (h : fillPieces ps (.dictionary e next) = .ok cs) :
    ∃ cs', fillPieces ps (.dictionary e' next') = .ok cs' ∧ Tints cs' cs := by
  induction ps generalizing next next' cs with
  | nil =>
    cases h
    exact ⟨[], rfl, .of_unescaped .nil⟩
  | cons p ps ih =>
    obtain ⟨⟨ds, s⟩, hp, h⟩ := bind_eq_ok_iff.mp h
    obtain ⟨es, hps, h⟩ := bind_eq_ok_iff.mp h
    cases h
    have hchars' := fun c hc => hchars c (List.mem_cons_of_mem p hc)
    have hdirectives' := fun d position hd => hdirectives d position (List.mem_cons_of_mem p hd)
    cases p with
    | char c =>
      cases hp
      obtain ⟨es', hes', hstrips⟩ := ih hchars' hdirectives' hnext hps
      have hc : Tints [c] [c] := .of_unescaped (.singleton (hchars c List.mem_cons_self))
      exact ⟨[c] ++ es', fillPieces_cons rfl hes', hc.append hstrips⟩
    | directive d position =>
      obtain ⟨rfl, ds', hds', hd⟩ := (hdirectives d position List.mem_cons_self).fill hnext hp
      obtain ⟨es', hes', hstrips⟩ := ih hchars' hdirectives' (.inl ⟨rfl, rfl⟩) hps
      exact ⟨ds' ++ es', fillPieces_cons hds' hes', hd.append hstrips⟩

/-! ## Records -/

theorem Entries.get?_of_ne {es fs : Entries} {k key v : Value} (h : k.sameKey key = false) (v' : Value) :
    get? key (es ++ (k, v') :: fs) = get? key (es ++ (k, v) :: fs) := by
  simp [get?, List.find?_append, h]

theorem Value.entryIntegers_append (es fs : Entries) :
    entryIntegers (es ++ fs) = entryIntegers es ++ entryIntegers fs := by
  induction es with
  | nil => rfl
  | cons e es ih => simp only [List.cons_append, entryIntegers, ih, List.append_assoc]

/-- A value that no directive writes with an escape character. -/
def Value.WithoutMark (v : Value) : Prop := v.Unescaped ∧ v ≠ .int escapeMark.toNat

theorem Value.WithoutMark.of_text {s : String} (h : SqlDraft.Unescaped s.toList) : (Value.text s).WithoutMark :=
  ⟨.of_text h, by rintro ⟨⟩⟩

/-- Whether what a function gives has a property, if it gives anything. -/
instance decidableForallOk {α : Type} (x : Except Fault α) (p : α → Prop) [DecidablePred p] :
    Decidable (∀ a, x = .ok a → p a) :=
  match x with
  | .ok a => decidable_of_iff (p a) ⟨fun h _ heq => Except.ok.inj heq ▸ h, fun h => h a rfl⟩
  | .error _ => isTrue (by rintro _ ⟨⟩)

namespace Record

/-- A record none of whose fields is a text with an escape character, nor its message as it is filled, nor the
text of its exception. -/
structure Unescaped (r : Record) : Prop where
  fields : ∀ e ∈ r.fields, e.2.Unescaped
  text : ∀ s, r.text = .ok s → SqlDraft.Unescaped s.toList
  note : ∀ v, r.note = .ok v → v.Unescaped

instance (r : Record) : Decidable r.Unescaped :=
  decidable_of_iff ((∀ e ∈ r.fields, e.2.Unescaped) ∧ (∀ s, r.text = .ok s → SqlDraft.Unescaped s.toList) ∧
      ∀ v, r.note = .ok v → v.Unescaped)
    ⟨fun h => ⟨h.1, h.2.1, h.2.2⟩, fun h => ⟨h.fields, h.text, h.note⟩⟩

variable {r : Record} {text : String} {time : Option String}

/-- What a template finds in a record: one of its fields, or its message or its time, which have no escapes. -/
theorem field_of_entry (htext : SqlDraft.Unescaped text.toList)
    (htime : ∀ t ∈ time, SqlDraft.Unescaped t.toList) {key : String} {v : Value}
    (h : (Value.dict (r.entries text time)).entry key = .ok v) : (key, v) ∈ r.fields ∨ v.WithoutMark := by
  rw [entries, Value.entry_named] at h
  obtain ⟨fs, gs, hsplit, -⟩ := List.lookup_eq_some_iff.mp h
  have hmem : (key, v) ∈ r.fields ++ ("message", .text text) :: time.toList.map fun t => ("asctime", .text t) := by
    rw [hsplit]
    exact List.mem_append_right fs List.mem_cons_self
  rcases List.mem_append.mp hmem with hfield | hmem
  · exact .inl hfield
  · rcases List.mem_cons.mp hmem with hmessage | hmem
    · cases hmessage
      exact .inr (.of_text htext)
    · obtain ⟨t, ht, hasctime⟩ := List.mem_map.mp hmem
      cases hasctime
      exact .inr (.of_text (htime t (Option.mem_toList.mp ht)))

/-- The entries of a record that differs in the name of its level. -/
theorem entries_levelName (r : Record) (text : String) (time : Option String) : ∃ es fs : Entries,
    ∀ v, ({ r with levelName := v } : Record).entries text time = es ++ (.text "levelname", v) :: fs :=
  ⟨(r.entries text time).take 3, (r.entries text time).drop 4, fun _ => rfl⟩

theorem entry_levelName : (Value.dict (r.entries text time)).entry "levelname" = .ok r.levelName := rfl

theorem entry_of_ne {key : String} (hkey : key ≠ "levelname") (v : Value) :
    (Value.dict (({ r with levelName := v } : Record).entries text time)).entry key =
      (Value.dict (r.entries text time)).entry key := by
  have hne : (Value.text "levelname").sameKey (.text key) = false := by
    rw [Value.sameKey_text, beq_eq_false_iff_ne]
    exact hkey.symm
  obtain ⟨es, fs, hentries⟩ := r.entries_levelName text time
  have hself : r.entries text time = es ++ (.text "levelname", r.levelName) :: fs := hentries r.levelName
  rw [hentries, hself, Value.entry, Value.entry, Entries.get?_of_ne hne]

/-- A record in quoted form shows as many integers as with another name of its level. -/
theorem exists_quoted_levelName {name : String} (hname : r.levelName = .text name) (name' : String) :
    (∃ s, (Value.dict (r.entries text time)).quoted = .ok s) →
      ∃ s, (Value.dict (({ r with levelName := .text name' } : Record).entries text time)).quoted = .ok s := by
  rw [Value.exists_quoted_iff, Value.exists_quoted_iff]
  obtain ⟨es, fs, hentries⟩ := r.entries_levelName text time
  have hself : r.entries text time = es ++ (.text "levelname", .text name) :: fs := hname ▸ hentries r.levelName
  have hsame : (Value.dict (({ r with levelName := .text name' } : Record).entries text time)).integers =
      (Value.dict (r.entries text time)).integers := by
    rw [hentries, hself, Value.integers, Value.integers, Value.entryIntegers_append, Value.entryIntegers_append]
    rfl
  rw [Value.Writable, Value.Writable, hsame]
  exact id

end Record

/-! ## Level names in colour -/

/-- A directive that writes a field which is the number of the escape character as a character. -/
def Directive.WritesMark (d : Directive) (r : Record) : Prop :=
  d.conversion = some 'c' ∧ ∃ key, d.key = .named key ∧ (key, .int escapeMark.toNat) ∈ r.fields

/-- A directive that writes a level name of `n` characters in colour as it writes it without, but for the codes. -/
structure Directive.SparesName (n : Nat) (d : Directive) : Prop where
  /-- The level name as it is: nothing of it is written, or it fills its field and no code is cut but the last,
  which goes as a whole. -/
  shown : d.key = .named "levelname" → d.conversion = some 's' → d.precision = .given 0 ∨
    d.width.number?.getD 0 ≤ n ∧ ∀ p, d.precision.number? = some p → p = n + 5 ∨ n + 9 ≤ p
  /-- The level name in quoted form. -/
  quoted : d.key = .named "levelname" → d.conversion = some 'r' ∨ d.conversion = some 'a' → d.CutsToOne
  /-- All of the record, the level name among it in quoted form. -/
  whole : d.key = .absent → d.conversion = some 's' ∨ d.conversion = some 'r' ∨ d.conversion = some 'a' →
    d.CutsToOne

namespace Record.Unescaped

variable {r : Record} {text : String} {time : Option String} {d : Directive}

/-- A directive that names an entry of a record. -/
theorem recovers_self (hr : r.Unescaped) (htext : r.text = .ok text)
    (htime : ∀ t ∈ time, SqlDraft.Unescaped t.toList) (hmark : ¬d.WritesMark r) {key : String} {v : Value}
    (hkey : d.key = .named key) (h : (Value.dict (r.entries text time)).entry key = .ok v) : d.Recovers v v := by
  obtain hfield | ⟨hv, hnumber⟩ := field_of_entry (hr.text _ htext) htime h
  · refine Directive.recovers_self (hr.fields _ hfield) fun hconversion hnumber => hmark ?_
    exact ⟨hconversion, key, hkey, hnumber ▸ hfield⟩
  · exact Directive.recovers_self hv fun _ => hnumber

theorem carries_self (hr : r.Unescaped) (htext : r.text = .ok text)
    (htime : ∀ t ∈ time, SqlDraft.Unescaped t.toList) (hmark : ¬d.WritesMark r) :
    d.Carries (.dict (r.entries text time)) (.dict (r.entries text time)) where
  entry _ v hkey h := ⟨v, h, hr.recovers_self htext htime hmark hkey h⟩
  whole _ := Directive.recovers_self nofun fun _ => nofun

theorem carries_coloured (hr : r.Unescaped) (htext : r.text = .ok text)
    (htime : ∀ t ∈ time, SqlDraft.Unescaped t.toList) (hmark : ¬d.WritesMark r) {name colour : String}
    (hname : r.levelName = .text name) (hcolour : IsColoured name colour) (hd : d.SparesName name.toList.length) :
    d.Carries (.dict (r.entries text time))
      (.dict (({ r with levelName := .text (inColour colour name) } : Record).entries text time)) where
  entry key v hkey h := by
    by_cases hlevel : key = "levelname"
    · subst hlevel
      have hv : v = .text name := by
        rw [entry_levelName, hname] at h
        exact (Except.ok.inj h).symm
      subst hv
      exact ⟨_, entry_levelName, Directive.recovers_coloured hcolour (hd.shown hkey) (hd.quoted hkey)⟩
    · exact ⟨v, (entry_of_ne hlevel _).trans h, hr.recovers_self htext htime hmark hkey h⟩
  whole hkey := Directive.recovers_dict (exists_quoted_levelName hname _) (hd.whole hkey)

end Record.Unescaped

/-! ## Formatters -/

namespace Formatter

variable {f : Formatter} {r : Record} {line : String}

theorem line_eq_ok (h : f.line r = .ok line) : ∃ text time, r.text = .ok text ∧ f.time? r = .ok time ∧
    fill f.template (.ofDictionary (.dict (r.entries text time))) = .ok line := by
  obtain ⟨text, htext, h⟩ := bind_eq_ok_iff.mp h
  obtain ⟨time, htime, h⟩ := bind_eq_ok_iff.mp h
  refine ⟨text, time, htext, htime, ?_⟩
  split at h
  · cases h
  · exact h

theorem unescaped_of_time? {time : Option String} (h : f.time? r = .ok time) :
    ∀ t ∈ time, Unescaped t.toList := by
  intro t ht
  rw [time?] at h
  split at h
  · obtain ⟨s, hs, rfl⟩ := map_eq_ok_iff.mp h
    cases ht
    obtain ⟨n, -, hn⟩ := bind_eq_ok_iff.mp hs
    exact unescaped_of_unixText hn
  · cases h
    cases ht

/-- A record that differs from another one in what its template finds, but not in its message and its time nor in
what stands below its line. -/
structure SameBut (f : Formatter) (r r' : Record) : Prop where
  text : r'.text = r.text
  time : r'.time = r.time
  note : r'.note = r.note
  stack : r'.stack = r.stack
  carries : ∀ d position, .directive d position ∈ pieces f.template → ∀ text time, r.text = .ok text →
    f.time? r = .ok time → d.Carries (.dict (r.entries text time)) (.dict (r'.entries text time))

variable {g : Formatter} {r' : Record}

/-- A template that is filled from another record. -/
theorem SameBut.line_tints (h : f.SameBut r r') (htemplate : Unescaped f.template.toList)
    (hg : g.template = f.template) (hline : f.line r = .ok line) :
    ∃ line', g.line r' = .ok line' ∧ Tints line'.toList line.toList := by
  obtain ⟨text, time, htext, htime, hfill⟩ := line_eq_ok hline
  obtain ⟨cs, hcs, rfl⟩ := map_eq_ok_iff.mp hfill
  obtain ⟨cs', hcs', htints⟩ := fillPieces_carries
    (fun c hc hmark => htemplate (hmark ▸ mem_of_char_mem_pieces hc))
    (fun d position hd => h.carries d position hd text time htext htime) (.inr ⟨rfl, rfl⟩) hcs
  refine ⟨String.ofList cs', ?_, by rwa [String.toList_ofList, String.toList_ofList]⟩
  have htime' : g.time? r' = .ok time := by rw [time?, hg, h.time]; exact htime
  have hfill' : fill g.template (.ofDictionary (.dict (r'.entries text time))) = .ok (String.ofList cs') := by
    rw [fill, hg, Supply.ofDictionary, hcs', map_ok]
  rw [Formatter.line, h.text, htext, ok_bind, htime', ok_bind, hfill']

/-- A record that is written in place of another one. -/
theorem SameBut.write_strips (h : f.SameBut r r') (hr : r.Unescaped) (htemplate : Unescaped f.template.toList)
    (hg : g.template = f.template) {s : String} (hwrite : f.write r = .ok s) :
    ∃ s', g.write r' = .ok s' ∧ withoutCodes s' = s := by
  have hstack : r.stack.Unescaped := hr.fields ("stack_info", r.stack) (by simp [Record.fields])
  obtain ⟨line, hline, hwrite⟩ := bind_eq_ok_iff.mp hwrite
  obtain ⟨noted, hnoted, hwrite⟩ := bind_eq_ok_iff.mp hwrite
  obtain ⟨told, htold, hwrite⟩ := bind_eq_ok_iff.mp hwrite
  obtain ⟨line', hline', htints⟩ := h.line_tints htemplate hg hline
  obtain ⟨told', htold', htints⟩ := htints.below (hr.note _ hnoted) htold
  obtain ⟨s', hs', htints⟩ := htints.below hstack hwrite
  refine ⟨s', ?_, htints.withoutCodes_eq⟩
  rw [write, hline', ok_bind, h.note, hnoted, ok_bind, htold', ok_bind, h.stack, hs']

theorem format_plain (template : String) (r : Record) :
    ((⟨template, false⟩ : Formatter).format r).2 = (⟨template, false⟩ : Formatter).write r := rfl

/-- A formatter writes a record as it is, or with the name of its level in the colour of the level. -/
theorem format_cases (hname : r.levelName.keyFault = none) :
    (f.format r).2 = f.write r ∨ ∃ name colour, r.levelName = .text name ∧ colourOf? name = some colour ∧
      (f.format r).2 = f.write { r with levelName := .text (inColour colour name) } := by
  unfold format
  cases hcoloured : f.colouredName r.levelName with
  | error fault =>
    unfold colouredName at hcoloured
    rw [hname] at hcoloured
    dsimp only at hcoloured
    repeat' split at hcoloured
    all_goals cases hcoloured
  | ok name? =>
    cases name? with
    | none => exact .inl rfl
    | some v =>
      unfold colouredName at hcoloured
      rw [hname] at hcoloured
      split at hcoloured
      · dsimp only at hcoloured
        split at hcoloured
        · rename_i name hlevel
          obtain ⟨colour, hcolour, rfl⟩ := Option.map_eq_some_iff.mp (Except.ok.inj hcoloured)
          exact .inr ⟨name, colour, hlevel, hcolour, rfl⟩
        · cases hcoloured
      · cases hcoloured

/-- Without the codes, a formatter with colours makes of a record what one without colours makes of it. -/
def OnlyColours (template : String) (r : Record) : Prop :=
  ∀ line, ((⟨template, false⟩ : Formatter).format r).2 = .ok line →
    ∃ s, ((⟨template, true⟩ : Formatter).format r).2 = .ok s ∧ withoutCodes s = line

instance (template : String) (r : Record) : Decidable (OnlyColours template r) :=
  match hplain : ((⟨template, false⟩ : Formatter).format r).2,
    hcoloured : ((⟨template, true⟩ : Formatter).format r).2 with
  | .error _, _ => isTrue fun _ h => nomatch hplain.symm.trans h
  | .ok line, .ok s => decidable_of_iff (withoutCodes s = line)
      ⟨fun h _ hline => ⟨s, hcoloured, h.trans (Except.ok.inj (hplain.symm.trans hline))⟩, fun h =>
        have ⟨_, hs, heq⟩ := h line hplain
        Except.ok.inj (hcoloured.symm.trans hs) ▸ heq⟩
  | .ok line, .error _ => isFalse fun h =>
      have ⟨_, hs, _⟩ := h line hplain
      nomatch hcoloured.symm.trans hs

/-- **Colouring.** A formatter with colours makes of a record what one without makes of it, but for the codes of
the colours, if neither the template nor the record has an escape character, no directive writes one by its
number, and none that writes the name of a coloured level quotes it, cuts it or has to fill up its field. -/
theorem onlyColours_of_spared (template : String) (r : Record)
    (htemplate : Unescaped template.toList) (hr : r.Unescaped) (hname : r.levelName.keyFault = none)
    (hmark : ∀ d position, .directive d position ∈ pieces template → ¬d.WritesMark r)
    (hspared : ∀ name colour, r.levelName = .text name → colourOf? name = some colour →
      ∀ d position, .directive d position ∈ pieces template → d.SparesName name.toList.length) :
    OnlyColours template r := by
  intro line h
  rw [format_plain] at h
  obtain hformat | ⟨name, colour, hlevel, hcolour, hformat⟩ := format_cases (f := ⟨template, true⟩) hname
  · rw [hformat]
    have hsame : (⟨template, false⟩ : Formatter).SameBut r r :=
      ⟨rfl, rfl, rfl, rfl, fun d position hd text time htext htime =>
        hr.carries_self htext (unescaped_of_time? htime) (hmark d position hd)⟩
    exact hsame.write_strips hr htemplate rfl h
  · rw [hformat]
    have hsame : (⟨template, false⟩ : Formatter).SameBut r { r with levelName := .text (inColour colour name) } :=
      ⟨rfl, rfl, rfl, rfl, fun d position hd text time htext htime =>
        hr.carries_coloured htext (unescaped_of_time? htime) (hmark d position hd) hlevel (isColoured hcolour)
          (hspared name colour hlevel hcolour d position hd)⟩
    exact hsame.write_strips hr htemplate rfl h

/-- The name of a level that fills its field, and an exception below the line. -/
theorem onlyColours_of_spared_filled :
    let template := "%(levelname)-4s|%(message)s"
    let r : Record :=
      { logger := .text "a", level := .int 20, levelName := .text "INFO", message := .text "m", values := [],
        created := Binary64.ofInteger 0, exception := .tuple [.text "Fault"], traceback := .ok "Fault" }
    ((⟨template, false⟩ : Formatter).format r).2.toOption = some "INFO|m\nFault" ∧ OnlyColours template r := by
  intro template r
  have hpieces : pieces template = [.directive ⟨.named "levelname", ⟨true, false, false, false, false⟩, .given 4,
      .absent, some 's'⟩ 14, .char '|', .directive (.shown "message") 26] := by decide +kernel
  have hdirective {d : Directive} {position : Nat} (hd : .directive d position ∈ pieces template) :
      d = ⟨.named "levelname", ⟨true, false, false, false, false⟩, .given 4, .absent, some 's'⟩ ∨
        d = .shown "message" := by
    rw [hpieces] at hd
    simp only [List.mem_cons, List.not_mem_nil, or_false, Piece.directive.injEq, reduceCtorEq, false_or] at hd
    exact hd.imp And.left And.left
  refine ⟨by decide +kernel, onlyColours_of_spared template r (by decide) (by decide) rfl ?_ ?_⟩
  · rintro d position hd ⟨hconversion, -⟩
    obtain rfl | rfl := hdirective hd <;> cases hconversion
  · rintro name colour ⟨⟩ - d position hd
    obtain rfl | rfl := hdirective hd
    · exact ⟨fun _ _ => .inr ⟨by decide, nofun⟩, fun _ h => absurd h (by decide), nofun⟩
    · exact ⟨fun _ _ => .inr ⟨by decide, nofun⟩, fun _ h => absurd h (by decide), nofun⟩

/-- Directives that fill up a field, cut a code, or quote the name of a level, one that writes an escape character
by its number, and a record that has a code below its line. -/
theorem not_onlyColours :
    let info : Record :=
      { logger := .text "a", level := .int 20, levelName := .text "INFO", message := .text "m", values := [],
        created := Binary64.ofInteger 0 }
    let unnamed : Record := { info with level := .int 27, levelName := .text "Level 27" }
    info.Unescaped ∧ unnamed.Unescaped ∧
      (∀ e ∈ [("%(levelname)-8s|%(message)s", info), ("%(levelname).3s|%(message)s", info),
          ("%(levelname)r|%(message)s", info), ("%(levelno)c[0m%(message)s", unnamed)],
        namesField e.1.toList = true ∧ Unescaped e.1.toList ∧ ¬OnlyColours e.1 e.2) ∧
      ¬OnlyColours "%(message)s" { info with stack := .text plainCode } := by
  intro info unnamed
  exact ⟨by decide, by decide, by decide +kernel, by decide +kernel⟩

end Formatter

end SqlDraft
