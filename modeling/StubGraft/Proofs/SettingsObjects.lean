import StubGraft.Settings.Basic
import Mathlib.Data.List.Nodup

/-!
# Settings and the objects they are read from

Settings are read from an object field by field, and listed as an object whose keys are always the
same.  Here both are compared by what is listed under each key, so that neither the order of the
fields nor the keys that are no settings matter.

* `overlay` — a listing with the values of an object in the places of its own.
* `set_cases`, `setAll_cases` — what becomes of the listing when one field is set, and when many
  are.
* `ofValue_overlay` — the settings of an object are listed as this overlay, and read back from it.
-/

namespace StubGraft

/-! ## Fields by their keys -/

namespace Value

/-- Whether a value is an object. -/
def IsObject (value : Value) : Prop := ∃ fields, value = .object fields

variable {key : Text} {value : Value} {fields more : List (Text × Value)}

theorem field?_cons (key k : Text) (value : Value) (fields : List (Text × Value)) :
    field? key ((k, value) :: fields) = if k = key then some value else field? key fields := rfl

theorem field?_eq_none_of_not_mem (h : key ∉ fields.map Prod.fst) : field? key fields = none := by
  induction fields with
  | nil => rfl
  | cons entry fields ih =>
    obtain ⟨k, v⟩ := entry
    rw [List.map_cons, List.mem_cons, not_or] at h
    rw [field?_cons, if_neg (Ne.symm h.1), ih h.2]

theorem mem_of_field?_eq_some (h : field? key fields = some value) : (key, value) ∈ fields := by
  induction fields with
  | nil => cases h
  | cons entry fields ih =>
    obtain ⟨k, v⟩ := entry
    rw [field?_cons] at h
    split at h
    · rename_i hk
      rw [hk, Option.some.inj h]
      exact List.mem_cons_self
    · exact List.mem_cons_of_mem _ (ih h)

/-- Among distinct keys a value is found under its key. -/
theorem field?_eq_some_iff (hdistinct : (fields.map Prod.fst).Nodup) :
    field? key fields = some value ↔ (key, value) ∈ fields := by
  refine ⟨mem_of_field?_eq_some, fun hmem => ?_⟩
  induction fields with
  | nil => cases hmem
  | cons entry fields ih =>
    obtain ⟨k, v⟩ := entry
    rw [List.map_cons, List.nodup_cons] at hdistinct
    rw [field?_cons]
    rcases List.mem_cons.1 hmem with he | hmem
    · rw [Prod.mk.injEq] at he
      rw [if_pos he.1.symm, he.2]
    · have hne : k ≠ key := fun hk =>
        hdistinct.1 (hk ▸ List.mem_map.2 ⟨(key, value), hmem, rfl⟩)
      rw [if_neg hne, ih hdistinct.2 hmem]

/-- The order of distinct keys does not matter. -/
theorem field?_perm (h : more.Perm fields) (hdistinct : (fields.map Prod.fst).Nodup) (key : Text) :
    field? key more = field? key fields := by
  have hdistinct' : (more.map Prod.fst).Nodup := (h.map Prod.fst).nodup_iff.2 hdistinct
  refine Option.ext fun value => ?_
  rw [field?_eq_some_iff hdistinct', field?_eq_some_iff hdistinct]
  exact h.mem_iff

end Value

namespace Settings

open Value

/-! ## Overlaid listings -/

/-- What is listed of an output section: its two switches, each true if it is not set. -/
def listedOutput : Value → Value
  | .object inner => .object
    [(Text.lit "atomic_write", (field? (Text.lit "atomic_write") inner).getD (.bool true)),
      (Text.lit "validate_before_write",
        (field? (Text.lit "validate_before_write") inner).getD (.bool true))]
  | value => value

/-- What is listed of a value that is set under a key. -/
def listed (key : Text) (value : Value) : Value :=
  if key = Text.lit "output" then listedOutput value else value

/-- A listing with the values of an object in the places of its own; keys that are not in the
listing are passed over. -/
def overlay (listing d : List (Text × Value)) : List (Text × Value) :=
  listing.map fun entry => (entry.1, ((field? entry.1 d).map (listed entry.1)).getD entry.2)

variable {environment : Environment} {settings next again : Settings} {key : Text}
  {value : Value} {listing d other : List (Text × Value)}

theorem overlay_nil (listing : List (Text × Value)) : overlay listing [] = listing :=
  List.map_id'' (fun _ => rfl) listing

/-- Distinct fields are laid over a listing one after the other. -/
theorem overlay_cons (listing : List (Text × Value)) (h : key ∉ d.map Prod.fst) :
    overlay (overlay listing [(key, value)]) d = overlay listing ((key, value) :: d) := by
  rw [overlay, overlay, overlay, List.map_map]
  refine List.map_congr_left fun entry _ => ?_
  simp only [Function.comp_apply, field?_cons]
  by_cases hkey : key = entry.1
  · rw [← hkey, field?_eq_none_of_not_mem h]
    simp
  · simp [hkey, field?]

/-- Only the fields whose keys are listed matter. -/
theorem overlay_congr (h : ∀ key ∈ listing.map Prod.fst, field? key other = field? key d) :
    overlay listing other = overlay listing d :=
  List.map_congr_left fun entry hentry => by
    rw [h entry.1 (List.mem_map.2 ⟨entry, hentry, rfl⟩)]

/-! ## Setting fields -/

/-- The keys under which settings are listed. -/
def keys : List Text := default.fields.map Prod.fst

/-- The keys that stand for the operations of settings, and those for internal use. -/
def IsReserved (key : Text) : Prop :=
  key ∈ [Text.lit "profile", Text.lit "to_dict", Text.lit "from_dict"] ∨
    Text.occursIn (Text.lit "__") key = true

instance : DecidablePred IsReserved := fun _ => inferInstanceAs (Decidable (_ ∨ _))

/-- Nothing stands in place of an operation of the settings, and nothing of them is lost. -/
structure Intact (environment : Environment) (settings : Settings) : Prop where
  /-- The profile is not replaced. -/
  profileOverride : settings.profileOverride = none
  /-- Nor is the listing. -/
  listingOverride : settings.listingOverride = none
  /-- The further words are still there. -/
  extraArgsLost : settings.extraArgsLost = false
  /-- So are the output settings. -/
  outputLost : settings.outputLost = none
  /-- Patterns are compiled in the given environment. -/
  environment_eq : settings.environment = environment

/-- The fields of an object have been set: the listing is overlaid with them, and the settings are
intact. -/
structure Overlaid (environment : Environment) (settings : Settings)
    (d : List (Text × Value)) (next : Settings) : Prop extends Intact environment next where
  /-- What is listed. -/
  fields : next.fields = overlay settings.fields d

/-- Intact settings are known by what is listed. -/
theorem Intact.eq_of_fields_eq (h : Intact environment next) (h' : Intact environment again)
    (hfields : next.fields = again.fields) : next = again := by
  obtain ⟨_, _, _, _, _, _, _, _, _, ⟨_, _⟩, _, _, _, _, _⟩ := next
  obtain ⟨_, _, _, _, _, _, _, _, _, ⟨_, _⟩, _, _, _, _, _⟩ := again
  obtain ⟨rfl, rfl, rfl, rfl, rfl⟩ := h
  obtain ⟨rfl, rfl, rfl, rfl, rfl⟩ := h'
  simp_all [Settings.fields]

/-- A key that is neither listed nor reserved sets nothing. -/
theorem set_of_not_mem_keys (hkey : key ∉ keys) (hplain : ¬ IsReserved key) :
    settings.set key value = .ok settings := by
  have hne : ∀ name, IsReserved name → key ≠ name := by
    rintro _ hname rfl
    exact hplain hname
  have hprofile := hne (Text.lit "profile") (by decide)
  have hlisting := hne (Text.lit "to_dict") (by decide)
  have hclass := hne (Text.lit "__class__") (by decide)
  have hweak := hne (Text.lit "__weakref__") (by decide)
  have htable := hne (Text.lit "__dict__") (by decide)
  simp only [keys, Settings.fields, List.map_cons, List.map_nil, List.mem_cons, List.not_mem_nil,
    not_or] at hkey
  simp only [set, hkey, hprofile, hlisting, hclass, hweak, htable, if_false]

/-- One field is set in the listing, unless it is an output section that is no object. -/
theorem set_cases (h : Intact environment settings) (hplain : ¬ IsReserved key) (value : Value) :
    (key = Text.lit "output" ∧ ¬ value.IsObject ∧
      settings.set key value = .error (.outputNotObject value)) ∨
    ((key = Text.lit "output" → value.IsObject) ∧
      ∃ next, settings.set key value = .ok next ∧
        Overlaid environment settings [(key, value)] next) := by
  by_cases hkey : key ∈ keys
  · obtain ⟨_, _, _, _, _, _, _, _, _, _, _, _, _, _, _⟩ := settings
    obtain ⟨rfl, rfl, rfl, rfl, rfl⟩ := h
    by_cases houtput : key = Text.lit "output"
    · subst houtput
      cases value with
      | object inner =>
        exact Or.inr ⟨fun _ => ⟨inner, rfl⟩, _, rfl, ⟨rfl, rfl, rfl, rfl, rfl⟩, rfl⟩
      | _ =>
        refine Or.inl ⟨rfl, ?_, rfl⟩
        rintro ⟨_, h⟩
        cases h
    · refine Or.inr ⟨fun h => absurd h houtput, ?_⟩
      -- each of the listed keys has its own place
      simp only [keys, Settings.fields, List.map_cons, List.map_nil, List.mem_cons,
        List.not_mem_nil, or_false] at hkey
      rcases hkey with rfl | rfl | rfl | rfl | rfl | rfl | rfl | rfl | rfl | rfl
      case inr.inr.inr.inr.inr.inr.inr.inr.inr => exact absurd rfl houtput
      all_goals exact ⟨_, rfl, ⟨rfl, rfl, rfl, rfl, rfl⟩, rfl⟩
  · have houtput : key ≠ Text.lit "output" := by
      rintro rfl
      exact hkey (by simp [keys, Settings.fields])
    refine Or.inr ⟨fun h => absurd h houtput, settings, set_of_not_mem_keys hkey hplain, h, ?_⟩
    have hnone : overlay settings.fields [(key, value)] = overlay settings.fields [] := by
      refine overlay_congr fun k hk => ?_
      rw [field?_cons, if_neg]
      rintro rfl
      exact hkey hk
    rw [hnone, overlay_nil]

/-- Some fields have an output section that is no object. -/
def HasFlatOutput (d : List (Text × Value)) : Prop :=
  ∃ value, field? (Text.lit "output") d = some value ∧ ¬ value.IsObject

/-- Distinct fields are all set, unless there is an output section that is no object. -/
theorem setAll_cases (h : Intact environment settings) (hdistinct : (d.map Prod.fst).Nodup)
    (hplain : ∀ key ∈ d.map Prod.fst, ¬ IsReserved key) :
    (∃ value, field? (Text.lit "output") d = some value ∧ ¬ value.IsObject ∧
      settings.setAll d = .error (.outputNotObject value)) ∨
    (¬ HasFlatOutput d ∧
      ∃ next, settings.setAll d = .ok next ∧ Overlaid environment settings d next) := by
  induction d generalizing settings with
  | nil =>
    refine Or.inr ⟨?_, settings, rfl, h, (overlay_nil _).symm⟩
    rintro ⟨value, h, -⟩
    cases h
  | cons entry d ih =>
    obtain ⟨key, value⟩ := entry
    rw [List.map_cons, List.nodup_cons] at hdistinct
    rw [List.map_cons, List.forall_mem_cons] at hplain
    rcases set_cases h hplain.1 value with ⟨rfl, hflat, hset⟩ | ⟨houtput, mid, hset, hmid⟩
    · exact Or.inl ⟨value, by rw [field?_cons, if_pos rfl], hflat, by rw [setAll, hset]⟩
    · have hall : settings.setAll ((key, value) :: d) = mid.setAll d := by rw [setAll, hset]
      rcases ih hmid.toIntact hdistinct.2 hplain.2 with
        ⟨flat, hfound, hflat, herror⟩ | ⟨hno, next, hok, hnext⟩
      · refine Or.inl ⟨flat, ?_, hflat, hall.trans herror⟩
        rw [field?_cons, if_neg, hfound]
        rintro rfl
        rw [field?_eq_none_of_not_mem hdistinct.1] at hfound
        cases hfound
      · refine Or.inr ⟨?_, next, hall.trans hok, hnext.toIntact, ?_⟩
        · rintro ⟨v, hv, hflat⟩
          rw [field?_cons] at hv
          split at hv
          · rename_i hkey
            exact hflat (Option.some.inj hv ▸ houtput hkey)
          · exact hno ⟨v, hv, hflat⟩
        · rw [hnext.fields, hmid.fields, overlay_cons _ hdistinct.1]

/-! ## Settings of an object -/

/-- Objects that agree on the keys of settings give the same settings, or are both refused. -/
theorem setAll_congr (h : Intact environment settings) (hdistinct : (d.map Prod.fst).Nodup)
    (hplain : ∀ key ∈ d.map Prod.fst, ¬ IsReserved key) (hdistinct' : (other.map Prod.fst).Nodup)
    (hplain' : ∀ key ∈ other.map Prod.fst, ¬ IsReserved key)
    (hsame : ∀ key ∈ keys, field? key other = field? key d) :
    settings.setAll other = settings.setAll d := by
  have houtput : field? (Text.lit "output") other = field? (Text.lit "output") d :=
    hsame _ (by simp [keys, Settings.fields])
  rcases setAll_cases h hdistinct hplain with
    ⟨value, hvalue, hflat, herror⟩ | ⟨hno, next, hok, hnext⟩
  · rcases setAll_cases h hdistinct' hplain' with
      ⟨value', hvalue', -, herror'⟩ | ⟨hno', -⟩
    · rw [houtput, hvalue] at hvalue'
      rw [herror, herror', Option.some.inj hvalue']
    · exact absurd ⟨value, houtput.trans hvalue, hflat⟩ hno'
  · rcases setAll_cases h hdistinct' hplain' with
      ⟨value', hvalue', hflat', -⟩ | ⟨-, next', hok', hnext'⟩
    · exact absurd ⟨value', houtput.symm.trans hvalue', hflat'⟩ hno
    · have hfields : next'.fields = next.fields := by
        rw [hnext'.fields, hnext.fields]
        exact overlay_congr hsame
      rw [hok, hok', hnext'.eq_of_fields_eq hnext.toIntact hfields]

/-- Intact settings are read back from their listing. -/
theorem Intact.ofValue_fields (h : Intact environment settings) :
    ofValue environment (.object settings.fields) = .ok settings := by
  obtain ⟨_, _, _, _, _, _, _, _, _, _, _, _, _, _, _⟩ := settings
  obtain ⟨rfl, rfl, rfl, rfl, rfl⟩ := h
  rfl

theorem Intact.toValue_eq (h : Intact environment settings) :
    settings.toValue = .ok (.object settings.fields) := by
  simp [toValue, readExtraArgs, readOutput, h.listingOverride, h.extraArgsLost, h.outputLost, bind,
    Except.bind, pure, Except.pure]

/-- The default settings are intact in any environment. -/
theorem intact_default (environment : Environment) :
    Intact environment { default with environment } :=
  ⟨rfl, rfl, rfl, rfl, rfl⟩

/-- An object with distinct keys, none of them reserved, is refused exactly if it has an output
section that is no object.  Otherwise its settings are listed as the default ones overlaid with it,
and they are read back from this listing.  Neither the order of the keys matters nor any key that
is not listed. -/
theorem ofValue_overlay (environment : Environment) (d : List (Text × Value))
    (hdistinct : (d.map Prod.fst).Nodup) (hplain : ∀ key ∈ d.map Prod.fst, ¬ IsReserved key) :
    ((∃ e, ofValue environment (.object d) = .error e ∧ e.category? = some .argument) ↔
      HasFlatOutput d) ∧
    (¬ HasFlatOutput d → ∃ settings, ofValue environment (.object d) = .ok settings ∧
      settings.toValue = .ok (.object (overlay default.fields d)) ∧
      ofValue environment (.object (overlay default.fields d)) = .ok settings) ∧
    (∀ other : List (Text × Value), other.Perm d →
      ofValue environment (.object other) = ofValue environment (.object d)) ∧
    ∀ other : List (Text × Value), (other.map Prod.fst).Nodup →
      (∀ key ∈ other.map Prod.fst, ¬ IsReserved key) →
      (∀ key ∈ keys, field? key other = field? key d) →
      ofValue environment (.object other) = ofValue environment (.object d) := by
  have hdefault := intact_default environment
  refine ⟨?_, ?_, ?_, ?_⟩
  · rcases setAll_cases hdefault hdistinct hplain with
      ⟨value, hvalue, hflat, herror⟩ | ⟨hno, next, hok, -⟩
    · exact ⟨fun _ => ⟨value, hvalue, hflat⟩, fun _ => ⟨_, herror, rfl⟩⟩
    · refine ⟨?_, fun hflat => absurd hflat hno⟩
      rintro ⟨e, herror, -⟩
      cases hok.symm.trans herror
  · intro hno
    rcases setAll_cases hdefault hdistinct hplain with
      ⟨value, hvalue, hflat, -⟩ | ⟨-, next, hok, hnext⟩
    · exact absurd ⟨value, hvalue, hflat⟩ hno
    · have hfields : next.fields = overlay default.fields d := hnext.fields
      refine ⟨next, hok, ?_, ?_⟩
      · rw [hnext.toValue_eq, hfields]
      · rw [← hfields, hnext.ofValue_fields]
  · intro other hperm
    have hkeys := hperm.map Prod.fst
    refine setAll_congr hdefault hdistinct hplain (hkeys.nodup_iff.2 hdistinct) ?_ ?_
    · intro key hkey
      exact hplain key (hkeys.mem_iff.1 hkey)
    · intro key _
      exact field?_perm hperm hdistinct key
  · intro other hdistinct' hplain' hsame
    exact setAll_congr hdefault hdistinct hplain hdistinct' hplain' hsame

/-- The object has a key that is no setting and an output section with one of the two switches and
something else. -/
theorem ofValue_overlay_colour :
    let d : List (Text × Value) := [(Text.lit "colour", .text (Text.lit "blue")),
      (Text.lit "output", .object [(Text.lit "atomic_write", .int 0), (Text.lit "mode", .null)]),
      (Text.lit "header_lines", .int 5)]
    let other : List (Text × Value) := d.reverse
    ((d.map Prod.fst).Nodup ∧ (∀ key ∈ d.map Prod.fst, ¬ IsReserved key) ∧ ¬ HasFlatOutput d) ∧
    (∃ settings, ofValue .plain (.object d) = .ok settings ∧
      settings.toValue = .ok (.object (overlay default.fields d)) ∧
      ofValue .plain (.object (overlay default.fields d)) = .ok settings) ∧
    ofValue .plain (.object other) = ofValue .plain (.object d) := by
  intro d other
  have hdistinct : (d.map Prod.fst).Nodup := by decide
  have hplain : ∀ key ∈ d.map Prod.fst, ¬ IsReserved key := by decide
  have hno : ¬ HasFlatOutput d := by
    rintro ⟨value, hvalue, hflat⟩
    cases hvalue
    exact hflat ⟨_, rfl⟩
  obtain ⟨-, hread, horder, -⟩ := ofValue_overlay .plain d hdistinct hplain
  exact ⟨⟨hdistinct, hplain, hno⟩, hread hno, horder other d.reverse_perm⟩

end Settings
end StubGraft
