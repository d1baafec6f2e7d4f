import Mathlib.Data.List.Perm.Basic
import Modforge.Form.OfJson

/-!
# Forms that keep what they read

Whatever spelling a value was read from, it is written in one that reads back as the same value.
A form keeps what it reads if its parts do.
-/

namespace Modforge

open Json (Misfit)

/-! ## Keeping a value -/

/-- The value is read back from what is written for it. -/
def Form.Keeps {α : Type} (form : Form α) (a : α) : Prop := form.ofJson (form.write a) = .ok a

/-- Everything that can be read is kept. -/
def Form.Faithful {α : Type} (form : Form α) : Prop :=
  ∀ json a, form.ofJson json = .ok a → form.Keeps a

namespace Fields

variable {ρ β γ : Type}

def keys {ρ β γ : Type} : Fields ρ β γ → List String
  | .nil => []
  | .cons key _ _ _ rest => key :: rest.keys

def values {ρ β γ : Type} : Fields ρ β γ → ρ → β
  | .nil, _ => ()
  | .cons _ _ _ get rest, r => (get r, rest.values r)

def full {ρ β γ : Type} : Fields ρ β γ → β → γ
  | .nil, _ => ()
  | .cons _ _ _ _ rest, (value, values) => (some value, rest.full values)

def KeepValues {ρ β γ : Type} : Fields ρ β γ → β → Prop
  | .nil, _ => True
  | .cons _ _ form _ rest, (value, values) => form.Keeps value ∧ rest.KeepValues values

def KeepSlots {ρ β γ : Type} : Fields ρ β γ → γ → Prop
  | .nil, _ => True
  | .cons _ _ form _ rest, (slot, slots) =>
    (∀ value, slot = some value → form.Keeps value) ∧ rest.KeepSlots slots

/-- The forms of the fields are faithful and keep what stands for a missing field. -/
def Faithful {ρ β γ : Type} : Fields ρ β γ → Prop
  | .nil => True
  | .cons _ fallback form _ rest =>
    form.Faithful ∧ (∀ value, fallback = some value → form.Keeps value) ∧ rest.Faithful

end Fields

/-! ## Outcomes -/

theorem bind_eq_ok {ε α β : Type} {first : Except ε α} {next : α → Except ε β} {b : β} :
    first >>= next = .ok b ↔ ∃ a, first = .ok a ∧ next a = .ok b := by
  cases first <;> simp [bind, Except.bind]

theorem map_eq_ok {ε α β : Type} {first : Except ε α} {f : α → β} {b : β} :
    first.map f = .ok b ↔ ∃ a, first = .ok a ∧ f a = b := by
  cases first <;> simp [Except.map]

theorem mapM_eq_ok_of_forall {ε α β : Type} {f : α → Except ε β} {g : β → α} {bs : List β}
    (h : ∀ b ∈ bs, f (g b) = .ok b) : (bs.map g).mapM f = .ok bs := by
  induction bs with
  | nil => rfl
  | cons b rest ih =>
    obtain ⟨hb, hrest⟩ := List.forall_mem_cons.1 h
    rw [List.map_cons, List.mapM_cons, hb, ih hrest]
    rfl

theorem forall_of_mapM_eq_ok {ε α β : Type} {f : α → Except ε β} {as : List α} {bs : List β}
    (h : as.mapM f = .ok bs) : ∀ b ∈ bs, ∃ a ∈ as, f a = .ok b := by
  induction as generalizing bs with
  | nil =>
    cases h
    simp
  | cons a rest ih =>
    rw [List.mapM_cons] at h
    obtain ⟨b, ha, h⟩ := bind_eq_ok.1 h
    obtain ⟨more, hrest, h⟩ := bind_eq_ok.1 h
    cases h
    intro b' hb'
    rcases List.mem_cons.1 hb' with rfl | hmore
    · exact ⟨a, List.mem_cons_self, ha⟩
    · obtain ⟨a', ha', hread⟩ := ih hrest b' hmore
      exact ⟨a', List.mem_cons_of_mem a ha', hread⟩

/-! ## Simple forms -/

namespace Form

theorem text_keeps (s : String) : Form.text.Keeps s := rfl

theorem text_faithful : Form.text.Faithful := fun _ s _ => text_keeps s

theorem flag_keeps (b : Bool) : Form.flag.Keeps b := rfl

theorem flag_faithful : Form.flag.Faithful := fun _ b _ => flag_keeps b

theorem word_faithful {α : Type} {choices : List (String × α)} {name : α → String}
    (h : ∀ a, choices.lookup (name a) = some a) : (Form.word choices name).Faithful := by
  intro json a _
  simp only [Keeps, Form.write, Form.ofJson, wordOfJson, wordOfJson.choose, h]

/-- A null stands for nothing, so nothing else may be written as one. -/
theorem optional_faithful {α : Type} {inner : Form α} (hinner : inner.Faithful)
    (hnull : ∀ a, inner.write a ≠ .null) : (Form.optional inner).Faithful := by
  intro json a h
  cases a with
  | none => rfl
  | some a =>
    have ha : inner.Keeps a := by
      simp only [Form.ofJson] at h
      split at h
      · cases h
      · obtain ⟨b, hread, hb⟩ := map_eq_ok.1 h
        cases hb
        exact hinner json a hread
    unfold Keeps
    simp only [Form.write, Form.ofJson]
    split
    · next hwritten => exact absurd hwritten (hnull a)
    · rw [ha]
      rfl

theorem many_faithful {α : Type} {item : Form α} (hitem : item.Faithful) :
    (Form.many item).Faithful := by
  intro json as h
  simp only [Form.ofJson] at h
  split at h
  · next items =>
    have hkeeps : ∀ a ∈ as, item.Keeps a := by
      intro a ha
      obtain ⟨content, _, hread⟩ := forall_of_mapM_eq_ok h a ha
      exact hitem content a hread
    unfold Keeps
    simp only [Form.write, Form.ofJson]
    exact mapM_eq_ok_of_forall hkeeps
  · cases h

theorem loose_faithful {α : Type} {judge : Loose → Except String α} {written : α → Json}
    (h : ∀ value a, judge value = .ok a → judge (.ofJson (written a)) = .ok a) :
    (Form.loose judge written).Faithful := by
  intro json a hread
  simp only [Form.ofJson] at hread
  have hjudge : judge (.ofJson json) = .ok a := by
    cases hjson : judge (.ofJson json) <;> rw [hjson] at hread <;> cases hread
    rfl
  unfold Keeps
  simp only [Form.write, Form.ofJson, h _ a hjudge]
  rfl

theorem mapped_text_faithful {α : Type} {decode : String → α} {encode : α → String}
    (h : ∀ s, decode (encode (decode s)) = decode s) :
    (Form.mapped .text decode encode).Faithful := by
  intro json a hread
  simp only [Form.ofJson] at hread
  split at hread
  · next s =>
    cases hread
    unfold Keeps
    simp only [Form.write, Form.ofJson, Except.map, h]
  · cases hread

end Form

/-! ## The entries of an object -/

section

variable {α : Type}

theorem insertEntry_perm {key : String} {value : α} {entries : List (String × α)}
    (h : key ∉ entries.map Prod.fst) :
    (Json.insertEntry key value entries).Perm ((key, value) :: entries) := by
  induction entries with
  | nil => exact .refl _
  | cons entry rest ih =>
    obtain ⟨k, v⟩ := entry
    rw [List.map_cons, List.mem_cons, not_or] at h
    rw [Json.insertEntry, if_neg h.1]
    split
    · exact .refl _
    · exact ((ih h.2).cons _).trans (.swap _ _ _)

theorem ofEntries_perm {entries : List (String × Json)} (h : (entries.map Prod.fst).Nodup) :
    ∃ sorted, Json.ofEntries entries = .object sorted ∧ sorted.Perm entries := by
  have hgen : ∀ done : List (String × Json), ((done ++ entries).map Prod.fst).Nodup →
      (entries.foldl (fun done entry => Json.insertEntry entry.1 entry.2 done) done).Perm
        (done ++ entries) := by
    clear h
    induction entries with
    | nil =>
      intro done _
      rw [List.append_nil]
      exact .refl _
    | cons entry rest ih =>
      intro done hnodup
      obtain ⟨key, value⟩ := entry
      have hmoved : (done ++ (key, value) :: rest).Perm ((key, value) :: done ++ rest) :=
        List.perm_middle
      have hnodup' := (hmoved.map Prod.fst).nodup_iff.1 hnodup
      have hnew : key ∉ done.map Prod.fst := by
        rw [List.cons_append, List.map_cons, List.nodup_cons, List.map_append, List.mem_append,
          not_or] at hnodup'
        exact hnodup'.1.1
      have hput : (Json.insertEntry key value done).Perm ((key, value) :: done) :=
        insertEntry_perm hnew
      have hnext := (((hput.append_right rest).map Prod.fst).nodup_iff).2 hnodup'
      exact (ih _ hnext).trans ((hput.append_right rest).trans hmoved.symm)
  exact ⟨_, rfl, hgen [] h⟩

end

/-! ## Reading the fields of a record -/

namespace Fields

def putAll {ρ β γ : Type} (fields : Fields ρ β γ) (entries : List (String × Json)) (slots : γ) :
    Except Misfit γ :=
  entries.foldlM (fun slots (key, content) => fields.putJson key content slots) slots

section

variable {ρ β γ : Type}

theorem putAll_cons (fields : Fields ρ β γ) (key : String) (content : Json)
    (entries : List (String × Json)) (slots : γ) :
    fields.putAll ((key, content) :: entries) slots =
      fields.putJson key content slots >>= fields.putAll entries := by
  rw [putAll, List.foldlM_cons]
  rfl

theorem putAll_field {α : Type} {own : String} {fallback : Option α} {form : Form α}
    {get : ρ → α} {rest : Fields ρ β γ} {value : α} {slots slots' : γ}
    {entries : List (String × Json)}
    (hown : ∀ entry ∈ entries, entry.1 = own → form.ofJson entry.2 = .ok value)
    (hrest : rest.putAll (entries.filter (·.1 ≠ own)) slots = .ok slots') (slot : Option α) :
    (Fields.cons own fallback form get rest).putAll entries (slot, slots) =
      .ok (if own ∈ entries.map Prod.fst then some value else slot, slots') := by
  induction entries generalizing slot slots with
  | nil =>
    cases hrest
    rfl
  | cons entry entries ih =>
    obtain ⟨key, content⟩ := entry
    obtain ⟨hentry, hentries⟩ := List.forall_mem_cons.1 hown
    rw [putAll_cons, putJson]
    by_cases hkey : key = own
    · rw [List.filter_cons_of_neg (by simpa using hkey)] at hrest
      rw [if_pos hkey, hentry hkey]
      show (Fields.cons own fallback form get rest).putAll entries (some value, slots) = _
      rw [ih hentries hrest]
      simp [hkey]
    · rw [List.filter_cons_of_pos (by simpa using hkey), putAll_cons] at hrest
      rw [if_neg hkey]
      obtain ⟨next, hput, hrest⟩ := bind_eq_ok.1 hrest
      rw [hput]
      show (Fields.cons own fallback form get rest).putAll entries (slot, next) = _
      have hne : own ≠ key := Ne.symm hkey
      rw [ih hentries hrest]
      simp only [List.map_cons, List.mem_cons, hne, false_or]

end

theorem keys_write {ρ β γ : Type} :
    ∀ (fields : Fields ρ β γ) (r : ρ), (fields.write r).map Prod.fst = fields.keys
  | .nil, _ => rfl
  | .cons key _ _ _ rest, r => congrArg (key :: ·) (rest.keys_write r)

/-- The entries that were written fill all slots, in whatever order they come. -/
theorem putAll_write {ρ β γ : Type} :
    ∀ (fields : Fields ρ β γ) (r : ρ) {entries : List (String × Json)},
      fields.keys.Nodup → fields.KeepValues (fields.values r) →
      entries.Perm (fields.write r) →
      fields.putAll entries fields.blank = .ok (fields.full (fields.values r))
  | .nil, _, entries, _, _, hperm => by
    obtain rfl : entries = [] := hperm.eq_nil
    rfl
  | .cons own fallback form get rest, r, entries, hkeys, hkeeps, hperm => by
    rw [keys, List.nodup_cons] at hkeys
    have hout : ∀ entry ∈ rest.write r, entry.1 ≠ own := by
      rintro entry hentry rfl
      apply hkeys.1
      rw [← rest.keys_write r]
      exact List.mem_map_of_mem hentry
    have hown : ∀ entry ∈ entries, entry.1 = own → form.ofJson entry.2 = .ok (get r) := by
      intro entry hentry hkey
      rcases List.mem_cons.1 (hperm.mem_iff.1 hentry) with rfl | hmem
      · exact hkeeps.1
      · exact absurd hkey (hout entry hmem)
    have hfilter : (entries.filter (·.1 ≠ own)).Perm (rest.write r) := by
      have hself : (rest.write r).filter (·.1 ≠ own) = rest.write r := by
        rw [List.filter_eq_self]
        intro entry hentry
        exact decide_eq_true (hout entry hentry)
      have h := hperm.filter fun entry => decide (entry.1 ≠ own)
      rwa [write, List.filter_cons_of_neg (by simp), hself] at h
    have hmem : own ∈ entries.map Prod.fst := by
      rw [(hperm.map Prod.fst).mem_iff, write]
      exact List.mem_cons_self
    have hrest := rest.putAll_write r hkeys.2 hkeeps.2 hfilter
    show (Fields.cons own fallback form get rest).putAll entries (none, rest.blank) = _
    rw [putAll_field hown hrest, if_pos hmem]
    rfl

theorem finish_full {ρ β γ : Type} :
    ∀ (fields : Fields ρ β γ) (values : β), fields.finish (fields.full values) = .ok values
  | .nil, _ => rfl
  | .cons _ _ _ _ rest, (value, values) => by
    simp only [full, finish, rest.finish_full values]
    rfl

/-! ## What was read is kept -/

theorem keepSlots_blank {ρ β γ : Type} : ∀ fields : Fields ρ β γ, fields.KeepSlots fields.blank
  | .nil => trivial
  | .cons _ _ _ _ rest => ⟨fun _ h => (nomatch h), rest.keepSlots_blank⟩

theorem keepSlots_putJson {ρ β γ : Type} :
    ∀ (fields : Fields ρ β γ) {key : String} {content : Json} {slots slots' : γ},
      fields.Faithful → fields.KeepSlots slots →
      fields.putJson key content slots = .ok slots' → fields.KeepSlots slots'
  | .nil, _, _, _, _, _, _, _ => trivial
  | .cons own _ form _ rest, key, content, (slot, slots), slots', hfaithful, hkeep, h => by
    rw [putJson] at h
    split at h
    · obtain ⟨value, hread, rfl⟩ := map_eq_ok.1 h
      refine ⟨?_, hkeep.2⟩
      rintro _ ⟨rfl⟩
      exact hfaithful.1 content value hread
    · obtain ⟨next, hput, rfl⟩ := map_eq_ok.1 h
      exact ⟨hkeep.1, rest.keepSlots_putJson hfaithful.2.2 hkeep.2 hput⟩

theorem keepSlots_putAll {ρ β γ : Type} {fields : Fields ρ β γ} (hfaithful : fields.Faithful)
    {entries : List (String × Json)} {slots slots' : γ} (hkeep : fields.KeepSlots slots)
    (h : fields.putAll entries slots = .ok slots') : fields.KeepSlots slots' := by
  induction entries generalizing slots with
  | nil =>
    cases h
    exact hkeep
  | cons entry rest ih =>
    obtain ⟨key, content⟩ := entry
    rw [putAll_cons] at h
    obtain ⟨next, hput, h⟩ := bind_eq_ok.1 h
    exact ih (fields.keepSlots_putJson hfaithful hkeep hput) h

theorem keepValues_finish {ρ β γ : Type} :
    ∀ (fields : Fields ρ β γ) {slots : γ} {values : β}, fields.Faithful →
      fields.KeepSlots slots → fields.finish slots = .ok values → fields.KeepValues values
  | .nil, _, _, _, _, _ => trivial
  | .cons _ fallback form _ rest, (slot, slots), values, hfaithful, hkeep, h => by
    rw [finish] at h
    split at h
    · cases h
    · next value hvalue =>
      split at h
      · next values' hrest =>
        cases h
        refine ⟨?_, rest.keepValues_finish hfaithful.2.2 hkeep.2 hrest⟩
        rcases Option.or_eq_some_iff.1 hvalue with hslot | ⟨_, hfallback⟩
        · exact hkeep.1 value hslot
        · exact hfaithful.2.1 value hfallback
      · cases h

theorem keepValues_ofJsonItems {ρ β γ : Type} :
    ∀ (fields : Fields ρ β γ) {expected : String} {count : Nat} {items : List Json} {values : β},
      fields.Faithful → fields.ofJsonItems expected count items = .ok values →
      fields.KeepValues values
  | .nil, _, _, _, _, _, _ => trivial
  | .cons _ fallback form _ rest, expected, count, items, values, hfaithful, h => by
    cases items with
    | nil =>
      simp only [ofJsonItems] at h
      split at h
      · cases h
      · next value =>
        obtain ⟨values', hrest, h⟩ := bind_eq_ok.1 h
        cases h
        exact ⟨hfaithful.2.1 value rfl, rest.keepValues_ofJsonItems hfaithful.2.2 hrest⟩
    | cons item items =>
      simp only [ofJsonItems] at h
      obtain ⟨value, hread, h⟩ := bind_eq_ok.1 h
      obtain ⟨values', hrest, h⟩ := bind_eq_ok.1 h
      cases h
      exact ⟨hfaithful.1 item value hread, rest.keepValues_ofJsonItems hfaithful.2.2 hrest⟩

end Fields

/-! ## Records -/

namespace Form

variable {ρ β γ : Type} {name : String} {fields : Fields ρ β γ} {build : β → ρ}

theorem keepValues_of_record (hfaithful : fields.Faithful) {json : Json} {r : ρ}
    (h : (Form.record name fields build).ofJson json = .ok r) :
    ∃ values, r = build values ∧ fields.KeepValues values := by
  simp only [Form.ofJson] at h
  split at h
  · next entries =>
    obtain ⟨slots, hput, h⟩ := bind_eq_ok.1 h
    split at h
    · next values hfinish =>
      cases h
      have hkeep := Fields.keepSlots_putAll hfaithful fields.keepSlots_blank hput
      exact ⟨values, rfl, fields.keepValues_finish hfaithful hkeep hfinish⟩
    · cases h
  · next items =>
    obtain ⟨values, hread, h⟩ := bind_eq_ok.1 h
    have hkeep := fields.keepValues_ofJsonItems hfaithful hread
    split at h
    · cases h
    · cases h
      exact ⟨values, rfl, hkeep⟩
  · cases h

/-- A record of kept values is kept. Its keys must differ, or one would hide another. -/
theorem record_keeps {r : ρ} (hkeys : fields.keys.Nodup) (hbuild : build (fields.values r) = r)
    (hkeep : fields.KeepValues (fields.values r)) : (Form.record name fields build).Keeps r := by
  have hnodup : ((fields.write r).map Prod.fst).Nodup := by
    rw [fields.keys_write]
    exact hkeys
  obtain ⟨sorted, hsorted, hperm⟩ := ofEntries_perm hnodup
  unfold Keeps
  simp only [Form.write, hsorted, Form.ofJson]
  change (fields.putAll sorted fields.blank >>= _) = _
  rw [fields.putAll_write r hkeys hkeep hperm]
  simp only [bind, Except.bind, fields.finish_full, hbuild]
  rfl

theorem record_faithful (hfaithful : fields.Faithful) (hkeys : fields.keys.Nodup)
    (hvalues : ∀ values, fields.values (build values) = values) :
    (Form.record name fields build).Faithful := by
  intro json r h
  obtain ⟨values, rfl, hkeep⟩ := keepValues_of_record hfaithful h
  refine record_keeps hkeys ?_ ?_
  · rw [hvalues]
  · rw [hvalues]
    exact hkeep

end Form

namespace Fields

variable {ρ α β γ : Type} {key : String} {form : Form α} {get : ρ → α} {rest : Fields ρ β γ}

theorem faithful_cons_none (h : form.Faithful) (hrest : rest.Faithful) :
    (Fields.cons key none form get rest).Faithful :=
  ⟨h, fun _ hvalue => (nomatch hvalue), hrest⟩

theorem faithful_cons_some {value : α} (h : form.Faithful) (hvalue : form.Keeps value)
    (hrest : rest.Faithful) : (Fields.cons key (some value) form get rest).Faithful := by
  refine ⟨h, ?_, hrest⟩
  rintro _ ⟨rfl⟩
  exact hvalue

end Fields

end Modforge
