import Modforge.Proofs.Filled.Scalar

/-!
# The value of a filled document

A filled document is read to the value of the document, filled. Marks never reach beyond their
texts, so lists and objects end where they ended before.
-/

namespace Modforge

namespace Json

open Reading

/-! ## Values -/

section

variable {change : String → String}

theorem mapEntries_insertEntry {key : String} (hkey : change key = key) (value : Json)
    {entries : List (String × Json)} (hentries : ∀ entry ∈ entries, change entry.1 = entry.1) :
    mapEntries change (insertEntry key value entries) =
      insertEntry key (value.mapTexts change) (mapEntries change entries) := by
  induction entries with
  | nil => simp only [insertEntry, mapEntries, hkey]
  | cons entry rest ih =>
    obtain ⟨k, v⟩ := entry
    rw [List.forall_mem_cons] at hentries
    obtain ⟨hk, hrest⟩ := hentries
    have hk : change k = k := hk
    simp only [insertEntry, mapEntries, hk]
    split
    · simp only [mapEntries, hkey]
    · split
      · simp only [mapEntries, hkey, hk]
      · simp only [mapEntries, hk, ih hrest]

theorem fixed_insertEntry {key : String} (hkey : change key = key) (value : Json)
    {entries : List (String × Json)} (hentries : ∀ entry ∈ entries, change entry.1 = entry.1) :
    ∀ entry ∈ insertEntry key value entries, change entry.1 = entry.1 := by
  induction entries with
  | nil => simpa [insertEntry] using hkey
  | cons entry rest ih =>
    obtain ⟨k, v⟩ := entry
    rw [List.forall_mem_cons] at hentries
    simp only [insertEntry]
    split
    · exact List.forall_mem_cons.2 ⟨hkey, hentries.2⟩
    · split
      · exact List.forall_mem_cons.2 ⟨hkey, List.forall_mem_cons.2 hentries⟩
      · exact List.forall_mem_cons.2 ⟨hentries.1, ih hentries.2⟩

theorem foldl_mapEntries {entries done : List (String × Json)}
    (hentries : ∀ entry ∈ entries, change entry.1 = entry.1)
    (hdone : ∀ entry ∈ done, change entry.1 = entry.1) :
    (mapEntries change entries).foldl (fun done entry => insertEntry entry.1 entry.2 done)
        (mapEntries change done) =
      mapEntries change
        (entries.foldl (fun done entry => insertEntry entry.1 entry.2 done) done) := by
  induction entries generalizing done with
  | nil => rfl
  | cons entry rest ih =>
    obtain ⟨key, value⟩ := entry
    rw [List.forall_mem_cons] at hentries
    obtain ⟨hkey, hrest⟩ := hentries
    have hkey : change key = key := hkey
    simp only [mapEntries, List.foldl_cons, hkey]
    rw [← mapEntries_insertEntry hkey value hdone]
    exact ih hrest (fixed_insertEntry hkey value hdone)

theorem ofEntries_mapEntries {entries : List (String × Json)}
    (h : ∀ entry ∈ entries, change entry.1 = entry.1) :
    ofEntries (mapEntries change entries) = (ofEntries entries).mapTexts change := by
  rw [ofEntries, ofEntries, mapTexts]
  exact congrArg Json.object (foldl_mapEntries h (List.forall_mem_nil _))

end

section

variable {filling : TextFilling} {spent fuel : Nat}

/-! ## Between the parts of a list or an object -/

theorem follows_nextItem (first : Bool) :
    Follows (Filled filling spent fuel) (nextItem first) (nextItem first)
      (Same fun _ => Filled filling spent fuel) := by
  refine follows_peekToken.same fun next => ?_
  cases next with
  | none => exact .stopAhead _
  | some c =>
    have hpure (more : Bool) : Follows (FilledAt filling spent fuel (some c))
        (Pure.pure more) (Pure.pure more) (Same fun _ => Filled filling spent fuel) :=
      .pure fun _ _ hab => ⟨rfl, hab.1⟩
    refine .ite (fun _ => hpure false) fun _ => .ite (fun _ => hpure true) fun _ =>
      .ite (fun hcomma => ?_) fun _ => .stopAhead _
    refine (follows_pass (hcomma ▸ by decide)).same fun _ => follows_peekToken.same fun next => ?_
    cases next with
    | none => exact .stopAhead _
    | some d =>
      exact .ite (fun _ => .stopAhead _) fun _ => .pure fun _ _ hab => ⟨rfl, hab.1⟩

theorem follows_endList :
    Follows (Filled filling spent fuel) endList endList
      (Same fun _ => Filled filling spent fuel) := by
  refine follows_peekToken.same fun next => ?_
  cases next with
  | none => exact .stopAhead _
  | some c =>
    refine .ite (fun hend => follows_pass (hend ▸ by decide)) fun _ => .ite (fun hcomma => ?_)
      fun _ => .stopAhead _
    refine (follows_pass (hcomma ▸ by decide)).same fun _ => follows_peekToken.same fun next => ?_
    cases next with
    | none => exact .stopAhead _
    | some d => exact .ite (fun _ => .stopAhead _) fun _ => .stopAhead _

theorem follows_endObject :
    Follows (Filled filling spent fuel) endObject endObject
      (Same fun _ => Filled filling spent fuel) := by
  refine follows_peekToken.same fun next => ?_
  cases next with
  | none => exact .stopAhead _
  | some c =>
    exact .ite (fun hend => follows_pass (hend ▸ by decide)) fun _ =>
      .ite (fun _ => .stopAhead _) fun _ => .stopAhead _

theorem follows_takeColon :
    Follows (Filled filling spent fuel) takeColon takeColon
      (Same fun _ => Filled filling spent fuel) := by
  refine follows_peekToken.same fun next => ?_
  cases next with
  | none => exact .stopAhead _
  | some c => exact .ite (fun hcolon => follows_pass (hcolon ▸ by decide)) fun _ => .stopAhead _

theorem peekToken_eq (cursor : Cursor) :
    peekToken cursor = .done (token? cursor.rest) ⟨cursor.rest.dropWhile isBlank,
      (cursor.rest.takeWhile isBlank).foldl Place.after cursor.place⟩ := rfl

theorem token?_of_takeColon {cursor next : Cursor} (h : takeColon cursor = .done () next) :
    token? cursor.rest = some ':' := by
  simp only [takeColon, Bind.bind, andThen, peekToken_eq] at h
  cases htoken : token? cursor.rest with
  | none =>
    rw [htoken] at h
    cases h
  | some c =>
    rw [htoken] at h
    by_cases hc : c = ':'
    · rw [hc]
    · simp only [if_neg hc] at h
      cases h

theorem follows_colon {p : Prop} :
    Follows (fun a b => (token? a.rest = some ':' → p) ∧ Filled filling spent fuel a b)
      takeColon takeColon fun _ _ a b => p ∧ Filled filling spent fuel a b := by
  rintro a b ⟨hp, hab⟩ v a' hdone
  obtain ⟨w, b', hdone', -, hab'⟩ := follows_takeColon hab hdone
  exact ⟨w, b', hdone', hp (token?_of_takeColon hdone), hab'⟩

theorem follows_nextKey (first : Bool) :
    Follows (Filled filling spent fuel) (nextKey first) (nextKey first)
      fun v w a b => w = v.map filling.text ∧
        (token? a.rest = some ':' → w = v) ∧ Filled filling spent fuel a b := by
  have hkey (c : Char) : Follows (FilledAt filling spent fuel (some c)) (nextKey.key c)
      (nextKey.key c) fun v w a b => w = v.map filling.text ∧
        (token? a.rest = some ':' → w = v) ∧ Filled filling spent fuel a b := by
    refine .ite (fun hquote => ?_) fun _ => .stopAhead _
    subst hquote
    refine follows_quote.bind fun _ _ => follows_readText.map fun v w a b hab => ?_
    obtain ⟨rfl, hsame, hab⟩ := hab
    exact ⟨rfl, fun hcolon => congrArg some (hsame hcolon), hab.weaken (Nat.le_add_right _ _)⟩
  refine follows_peekToken.same fun next => ?_
  cases next with
  | none => exact .stopAhead _
  | some c =>
    refine .ite (fun _ => .pure fun _ _ hab => ⟨rfl, fun _ => rfl, hab.1⟩) fun _ =>
      .ite (fun _ => hkey c) fun _ => .ite (fun hcomma => ?_) fun _ => .stopAhead _
    refine (follows_pass (hcomma ▸ by decide)).same fun _ => follows_peekToken.same fun next => ?_
    cases next with
    | none => exact .stopAhead _
    | some d => exact .ite (fun _ => .stopAhead _) fun _ => hkey d

/-! ## Lists and objects -/

theorem follows_within {α β : Type} {inside : Reading α} {inside' : Reading β}
    {close : Reading Unit} {related : α → β → Prop} {spent' : Nat} {c : Char} (hc : c ≠ '"')
    (hinside : Follows (Filled filling (spent + 2) fuel) inside inside' fun v w a b =>
      related v w ∧ Filled filling spent' fuel a b)
    (hclose : Follows (Filled filling spent' fuel) close close
      (Same fun _ => Filled filling spent' fuel)) (depth : Nat) :
    Follows (FilledAt filling spent fuel (some c)) (within depth inside close)
      (within depth inside' close) fun v w a b => related v w ∧ Filled filling spent' fuel a b := by
  refine .ite (fun _ => .stopAhead _) fun _ => (follows_skip hc).same fun _ => ?_
  intro a b hab v a' hdone
  dsimp only at hdone ⊢
  split at hdone
  · next u next hfirst =>
    obtain ⟨w, b', hsecond, hrelated, hnext⟩ := hinside hab hfirst
    rw [hsecond]
    split at hdone
    · next last hlast =>
      obtain ⟨_, b'', hsecond', -, hend⟩ := hclose hnext hlast
      cases hdone
      exact ⟨w, b'', by simp only [hsecond'], hrelated, hend⟩
    · cases hdone
  · split at hdone
    · cases hdone
    · cases hdone

theorem filled_succ_iff {a b : Cursor} :
    Filled filling (spent + 1) (fuel + 1) a b ↔ Filled filling spent fuel a b := by
  constructor
  · rintro ⟨hlaid, hrest, hlength⟩
    exact ⟨hlaid, hrest, by omega⟩
  · rintro ⟨hlaid, hrest, hlength⟩
    exact ⟨hlaid, hrest, by omega⟩

/-- With fuel for what is left to read, the second reading follows the first one. -/
def FollowsFueled {α β : Type} (filling : TextFilling) (spent spent' : Nat) (first : Reading α)
    (second : Nat → Reading β) (related : α → β → Prop) : Prop :=
  ∀ fuel, Follows (Filled filling spent fuel) first (second (fuel + 1)) fun v w a b =>
    related v w ∧ Filled filling spent' fuel a b

/-- What was spent gives one fuel more. -/
theorem FollowsFueled.less {α β : Type} {first : Reading α} {second : Nat → Reading β}
    {related : α → β → Prop} {spent' : Nat}
    (h : FollowsFueled filling spent spent' first second related) :
    Follows (Filled filling (spent + 1) fuel) first (second fuel) fun v w a b =>
      related v w ∧ Filled filling (spent' + 1) fuel a b := by
  intro a b hab v a' hdone
  obtain ⟨fuel, rfl⟩ : ∃ less, fuel = less + 1 :=
    Nat.exists_eq_succ_of_ne_zero (by have := hab.length; omega)
  obtain ⟨w, b', hsecond, hrelated, hnext⟩ := h fuel (filled_succ_iff.1 hab) hdone
  exact ⟨w, b', hsecond, hrelated, filled_succ_iff.2 hnext⟩

/-! ## Kept values -/

def MappedEntries (change : String → String) (entries entries' : List (String × Json)) : Prop :=
  entries' = mapEntries change entries ∧ ∀ entry ∈ entries, change entry.1 = entry.1

variable (filling) in
/-- Values, items and entries are read filled if so much fuel is left for reading them first. -/
structure ReadsFilled (n : Nat) : Prop where
  value (depth : Nat) :
    FollowsFueled filling 0 2 (readValue n depth) (readValue · depth)
      fun v w => w = v.mapTexts filling.text
  items (depth : Nat) (first : Bool) :
    FollowsFueled filling 1 1 (readItems n depth first) (readItems · depth first)
      fun v w => w = mapItems filling.text v
  entries (depth : Nat) (first : Bool) :
    FollowsFueled filling 1 1 (readEntries n depth first) (readEntries · depth first)
      (MappedEntries filling.text)

section

variable {n : Nat} (h : ReadsFilled filling n)

include h

theorem ReadsFilled.items_succ (depth : Nat) (first : Bool) :
    FollowsFueled filling 1 1 (readItems (n + 1) depth first) (readItems · depth first)
      fun v w => w = mapItems filling.text v := by
  refine fun fuel => (follows_nextItem first).same fun more => .ite (fun _ => ?_) fun _ => ?_
  · refine (h.value depth).less.bind fun item item' => .given fun hitem => ?_
    refine ((h.items depth false).less.pre fun _ _ hab => hab.weaken (by omega)).bind
      fun rest rest' => .given fun hrest => .pure fun a b hab => ?_
    exact ⟨by rw [hitem, hrest]; rfl, hab.weaken (by omega)⟩
  · exact .pure fun a b hab => ⟨rfl, hab⟩

theorem ReadsFilled.entries_succ (depth : Nat) (first : Bool) :
    FollowsFueled filling 1 1 (readEntries (n + 1) depth first) (readEntries · depth first)
      (MappedEntries filling.text) := by
  refine fun fuel => (follows_nextKey first).bind fun key key' => .given fun hkey => ?_
  subst hkey
  cases key with
  | none => exact .pure fun a b hab => ⟨⟨rfl, by simp⟩, hab.2⟩
  | some key =>
    -- only now is the text known to be a key, which the filling leaves alone
    refine follows_colon.bind fun _ _ => .given fun hfixed => ?_
    refine (h.value depth).less.bind fun value value' => .given fun hvalue => ?_
    refine ((h.entries depth false).less.pre fun _ _ hab => hab.weaken (by omega)).bind
      fun rest rest' => .given fun hrest => .pure fun a b hab => ?_
    refine ⟨⟨by rw [hvalue, hrest.1, mapEntries], ?_⟩, hab.weaken (by omega)⟩
    exact List.forall_mem_cons.2 ⟨Option.some.inj hfixed, hrest.2⟩

theorem ReadsFilled.value_succ (depth : Nat) :
    FollowsFueled filling 0 2 (readValue (n + 1) depth) (readValue · depth)
      fun v w => w = v.mapTexts filling.text := by
  refine fun fuel => follows_peekToken.same fun next => ?_
  cases next with
  | none => exact .stopAhead _
  | some c =>
    have hword {word : List Char} (hword : '"' ∉ word) {value : Json}
        (hvalue : value.mapTexts filling.text = value) (hc : c ≠ '"') :
        Follows (FilledAt filling 0 fuel (some c)) (do skip; readWord word; pure value)
          (do skip; readWord word; pure value)
          (Mapped filling 2 fuel) :=
      (follows_skip hc).same fun _ => (follows_readWord hword).same fun _ =>
        .pure fun a b hab => ⟨hvalue.symm, hab⟩
    refine .ite (fun hc => hword (by decide) rfl (hc ▸ by decide)) fun _ =>
      .ite (fun hc => hword (by decide) rfl (hc ▸ by decide)) fun _ =>
      .ite (fun hc => hword (by decide) rfl (hc ▸ by decide)) fun _ =>
      .ite (fun hsign => ?_) fun _ => .ite (fun _ => ?_) fun _ => .ite (fun hquote => ?_) fun _ =>
      .ite (fun hlist => ?_) fun _ => .ite (fun hobject => ?_) fun _ => .stopAhead _
    · subst hsign
      exact ((follows_pass (by decide)).same fun _ => follows_readNumber true)
    · exact (follows_readNumber false).anywhere
    · subst hquote
      exact follows_quote.bind fun _ _ => follows_readText.map fun v w a b hab =>
        ⟨congrArg Json.text hab.1, hab.2.2⟩
    · subst hlist
      exact (follows_within (by decide) (h.items _ true).less follows_endList depth).map
        fun v w a b hab => ⟨congrArg Json.list hab.1, hab.2⟩
    · subst hobject
      refine (follows_within (by decide) (h.entries _ true).less follows_endObject depth).map
        fun v w a b hab => ⟨?_, hab.2⟩
      rw [hab.1.1, ofEntries_mapEntries hab.1.2]

end

theorem readsFilled (n : Nat) : ReadsFilled filling n := by
  -- on the fuel of the first reading; what is left of the text bounds that of the second
  induction n with
  | zero =>
    exact ⟨fun _ _ => .stop _, fun _ _ _ => .stop _, fun _ _ _ => .stop _⟩
  | succ n ih => exact ⟨ih.value_succ, ih.items_succ, ih.entries_succ⟩

end

/-! ## Whole texts -/

def toEnd {α : Type} (reading : Reading α) : Reading α := do
  let value ← reading
  match ← peekToken with
  | none => pure value
  | some _ => stopAhead .trailingCharacters

theorem readAll_eq {α : Type} (reading : Reading α) (text : String) :
    readAll reading text = match toEnd reading (.ofText text) with
      | .done value _ => .ok value
      | .failed fault _ => .error fault := rfl

theorem follows_toEnd {filling : TextFilling} {α β : Type} {before : Cursor → Cursor → Prop}
    {first : Reading α} {second : Reading β} {related : α → β → Prop} {fuel : Nat}
    (h : Follows before first second fun v w a b => related v w ∧ Filled filling 0 fuel a b) :
    Follows before (toEnd first) (toEnd second) fun v w _ _ => related v w := by
  refine h.bind fun v w => .given fun hrelated => follows_peekToken.same fun next => ?_
  cases next with
  | none => exact .pure fun _ _ _ => hrelated
  | some _ => exact .stopAhead _

/-- The value of a filled document is the value of the document, filled. -/
theorem parse_fill (filling : TextFilling) {document : String}
    (hlaid : Laid filling.opens document.toList) {value : Json}
    (h : parse document = .ok value) :
    parse (filling.text document) = .ok (value.mapTexts filling.text) := by
  let fuel := 2 * (filling.text document).toList.length + 1
  have hread : Follows (fun a b => a = .ofText document ∧ b = .ofText (filling.text document))
      (do readValue (← Reading.fuel) depthLimit) (do readValue (← Reading.fuel) depthLimit)
      fun v w a b => w = v.mapTexts filling.text ∧ Filled filling 0 fuel a b := by
    rintro _ _ ⟨rfl, rfl⟩ v next hdone
    have hfilled : Filled filling 0 fuel (.ofText document) (.ofText (filling.text document)) :=
      ⟨hlaid, by simp [Cursor.ofText, TextFilling.text], Nat.le_succ _⟩
    obtain ⟨w, next', hdone', hvalue, hnext⟩ :=
      (readsFilled _).value depthLimit fuel hfilled hdone
    exact ⟨w, next', hdone', hvalue, hnext.weaken (Nat.zero_le _)⟩
  rw [parse, readAll_eq] at h ⊢
  split at h
  · next hfirst =>
    cases h
    obtain ⟨_, _, hsecond, rfl⟩ := follows_toEnd hread ⟨rfl, rfl⟩ hfirst
    rw [hsecond]
  · cases h

end Json

end Modforge
