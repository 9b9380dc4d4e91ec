import Haulage.Command.Arguments
import Mathlib.Data.List.Nodup
import Mathlib.Data.List.TakeWhile

/-! What a command line means. Switches, options with their values behind an equals sign, and the
arguments that are told by their places may be written in any order; what is understood is the same. -/
namespace Haulage

def Invocation.turnsOn (invocation : Invocation) : Switch → Bool
  | .useRole => invocation.access.useRole
  | .json => invocation.report.json
  | .noColor => invocation.report.noColor
  | .quiet => invocation.report.quiet
  | .debug => invocation.report.debug

def Invocation.value? (invocation : Invocation) : Field → Option String
  | .roleName => invocation.access.roleName
  | .accessKeyId => invocation.access.accessKeyId
  | .secretAccessKey => invocation.access.secretAccessKey
  | .endpointUrl => invocation.access.endpointUrl
  | .region => invocation.access.region

namespace Arguments

/-- One thing that is said on a command line; a stray has a name that no option has. -/
inductive Item where
  | switch (switch : Switch)
  | value (field : Field) (text : String)
  | place (text : String)
  | stray (name : String) (content : Option String)
  deriving DecidableEq

/-- All names that stand behind two dashes. -/
def optionNames : List String :=
  ["use_role", "json", "no-color", "quiet", "debug", "role_name", "aws_access_key_id",
    "aws_secret_access_key", "endpoint_url", "region", "help", "version"]

namespace Item

/-- The argument that says it. -/
def text : Item → String
  | .switch .useRole => "--use_role"
  | .switch .json => "--json"
  | .switch .noColor => "--no-color"
  | .switch .quiet => "--quiet"
  | .switch .debug => "--debug"
  | .value .roleName text => "--role_name=" ++ text
  | .value .accessKeyId text => "--aws_access_key_id=" ++ text
  | .value .secretAccessKey text => "--aws_secret_access_key=" ++ text
  | .value .endpointUrl text => "--endpoint_url=" ++ text
  | .value .region text => "--region=" ++ text
  | .place text => text
  | .stray name none => "--" ++ name
  | .stray name (some content) => "--" ++ name ++ "=" ++ content

/-- An argument told by its place does not begin with a dash, and two dashes alone are no stray. -/
def Sound : Item → Prop
  | .switch _ => True
  | .value _ _ => True
  | .place text => text.toList.head? ≠ some '-'
  | .stray name content =>
    name ∉ optionNames ∧ '=' ∉ name.toList ∧ (content = none → name ≠ "")

instance : DecidablePred Sound
  | .switch _ => .isTrue trivial
  | .value _ _ => .isTrue trivial
  | .place text => inferInstanceAs (Decidable (text.toList.head? ≠ some '-'))
  | .stray name content => inferInstanceAs
      (Decidable (name ∉ optionNames ∧ '=' ∉ name.toList ∧ (content = none → name ≠ "")))

def switch? : Item → Option Switch
  | .switch option => some option
  | _ => none

def value? : Item → Option (Field × String)
  | .value field text => some (field, text)
  | _ => none

/-- The value for one field. -/
def valueOf? (field : Field) : Item → Option String
  | .value other text => if other = field then some text else none
  | _ => none

def place? : Item → Option String
  | .place text => some text
  | _ => none

def isStray : Item → Bool
  | .stray _ _ => true
  | _ => false

end Item

/-- The line tells every switch that is on and every value that is given once, and the places in their
order. Nothing is said of where in the line each of them stands. -/
structure Tells (line : List Item) (invocation : Invocation) : Prop where
  sound : ∀ item ∈ line, item.Sound
  switches : ∀ switch, (line.filterMap Item.switch?).count switch = (invocation.turnsOn switch).toNat
  values : ∀ field, line.filterMap (Item.valueOf? field) = (invocation.value? field).toList
  places : line.filterMap Item.place? = invocation.places

/-! ## Names -/

variable {name value text : List Char} {argument : String} {switch : Switch} {field : Field}
  {limit : Nat} {progress : Progress} {rest : List String} {line : List Item}

theorem lookup_switch (switch : Switch) : longNames.lookup switch.name = some (.switch switch) := by
  cases switch <;> decide

theorem lookup_field (field : Field) : longNames.lookup field.name = some (.field field) := by
  cases field <;> decide

theorem lookup_eq_none_of_not_mem {α β : Type} [BEq α] [LawfulBEq α] {entries : List (α × β)}
    {key : α} (absent : key ∉ entries.map Prod.fst) : entries.lookup key = none := by
  rw [List.lookup_eq_none_iff]
  intro entry member
  rw [bne_iff_ne]
  rintro rfl
  exact absent (List.mem_map_of_mem member)

theorem lookup_foreign {name : String} (foreign : name ∉ optionNames) :
    longNames.lookup name = none := by
  have names : longNames.map Prod.fst = optionNames := by decide
  rw [← names] at foreign
  exact lookup_eq_none_of_not_mem foreign

theorem text_switch (switch : Switch) :
    (Item.switch switch).text.toList = '-' :: '-' :: switch.name.toList := by
  cases switch <;> decide

theorem text_value (field : Field) (text : String) :
    (Item.value field text).text.toList =
      '-' :: '-' :: (field.name.toList ++ '=' :: text.toList) := by
  have written : (Item.value field text).text = "--" ++ field.name ++ "=" ++ text := by
    cases field <;> exact congrArg (· ++ text) (by decide)
  simp [written]

theorem text_stray (name : String) :
    (Item.stray name none).text.toList = '-' :: '-' :: name.toList := by
  have written : (Item.stray name none).text = "--" ++ name := rfl
  simp [written]

theorem text_stray_valued (name content : String) :
    (Item.stray name (some content)).text.toList =
      '-' :: '-' :: (name.toList ++ '=' :: content.toList) := by
  have written : (Item.stray name (some content)).text = "--" ++ name ++ "=" ++ content := rfl
  simp [written]

theorem equals_not_mem_switch (switch : Switch) : '=' ∉ switch.name.toList := by
  cases switch <;> decide

theorem equals_not_mem_field (field : Field) : '=' ∉ field.name.toList := by
  cases field <;> decide

theorem bne_of_not_mem (plain : '=' ∉ name) : ∀ letter ∈ name, (letter != '=') = true := by
  intro letter member
  rw [bne_iff_ne]
  rintro rfl
  exact plain member

/-! ## One argument -/

namespace Progress

theorem settle_eq (settled : progress.pending = none) : progress.settle = .ok progress := by
  simp [settle, settled]

theorem long_lone (plain : '=' ∉ name) : progress.long name =
    match longNames.lookup (String.ofList name) with
    | none => .error .unknownArgument
    | some named => progress.mention named := by
  have other := bne_of_not_mem plain
  rw [long, List.takeWhile_eq_self_iff.mpr other, List.dropWhile_eq_nil_iff.mpr other]
  cases longNames.lookup (String.ofList name) <;> rfl

theorem long_valued (plain : '=' ∉ name) : progress.long (name ++ '=' :: value) =
    match longNames.lookup (String.ofList name) with
    | none => .error .unknownArgument
    | some (.field field) => do
      let progress ← progress.settle
      progress.record field (String.ofList value)
    | some _ => .error .unexpectedValue := by
  have other := bne_of_not_mem plain
  rw [long, List.takeWhile_append_of_pos other, List.dropWhile_append_of_pos other]
  simp only [List.takeWhile_cons, List.dropWhile_cons, bne_self_eq_false, Bool.false_eq_true,
    ↓reduceIte, List.append_nil]
  cases longNames.lookup (String.ofList name) with
  | none => rfl
  | some named => cases named <;> rfl

theorem read_long (spelled : argument.toList = '-' :: '-' :: text) (nonempty : text ≠ []) :
    progress.read limit false (argument :: rest) =
      (progress.long text >>= fun progress => progress.read limit false rest) := by
  cases text with
  | nil => exact absurd rfl nonempty
  | cons letter more => simp [read, spelled]

theorem read_plain (plain : argument.toList.head? ≠ some '-') (settled : progress.pending = none) :
    progress.read limit false (argument :: rest) =
      (progress.place limit argument >>= fun progress => progress.read limit false rest) := by
  have told : progress.plain limit argument = progress.place limit argument := by
    simp [Progress.plain, settled]
  rw [← told]
  cases spelled : argument.toList with
  | nil => simp [read, spelled]
  | cons letter more =>
    have other : letter ≠ '-' := by
      rintro rfl
      simp [spelled] at plain
    simp [read, spelled, other]

/-- What is understood once an item has been said. -/
def heard (progress : Progress) (item : Item) : Progress where
  switches := progress.switches ++ item.switch?.toList
  values := progress.values ++ item.value?.toList
  places := progress.places ++ item.place?.toList
  pending := none

/-- The item can be said next: nothing is said a second time, and there is a place left. -/
def Takes (limit : Nat) (progress : Progress) : Item → Prop
  | .switch switch => switch ∉ progress.switches
  | .value field _ => field ∉ progress.values.map Prod.fst
  | .place _ => progress.places.length < limit
  | .stray _ _ => False

theorem read_of_takes {item : Item} (settled : progress.pending = none) (sound : item.Sound)
    (takes : progress.Takes limit item) :
    progress.read limit false (item.text :: rest) =
      (progress.heard item).read limit false rest := by
  cases item with
  | switch switch =>
    have fresh : switch ∉ progress.switches := takes
    have named : switch.name.toList ≠ [] := by cases switch <;> decide
    rw [read_long (text_switch switch) named, long_lone (equals_not_mem_switch switch),
      String.ofList_toList, lookup_switch]
    simp [mention, settle_eq settled, turnOn, fresh, heard, Item.switch?, Item.value?, Item.place?,
      settled, bind, Except.bind]
  | value field text =>
    have fresh : progress.values.lookup field = none := lookup_eq_none_of_not_mem takes
    rw [read_long (text_value field text) (by simp), long_valued (equals_not_mem_field field),
      String.ofList_toList, lookup_field]
    simp [settle_eq settled, record, fresh, heard, Item.switch?, Item.value?, Item.place?, settled,
      bind, Except.bind]
  | place text =>
    have room : progress.places.length < limit := takes
    change progress.read limit false (text :: rest) = _
    rw [read_plain sound settled, Progress.place, if_pos room, settle_eq settled]
    simp [heard, Item.switch?, Item.value?, Item.place?, settled, bind, Except.bind, pure,
      Except.pure]
  | stray name content => exact takes.elim

theorem read_stray {name : String} {content : Option String}
    (sound : (Item.stray name content).Sound) :
    progress.read limit false ((Item.stray name content).text :: rest) =
      .error .unknownArgument := by
  obtain ⟨foreign, plain, named⟩ := sound
  cases content with
  | none =>
    have inside : name.toList ≠ [] := by simpa using named rfl
    rw [read_long (text_stray name) inside, long_lone plain, String.ofList_toList,
      lookup_foreign foreign]
    rfl
  | some content =>
    rw [read_long (text_stray_valued name content) (by simp), long_valued plain,
      String.ofList_toList, lookup_foreign foreign]
    rfl

theorem read_overfull (plain : argument.toList.head? ≠ some '-') (settled : progress.pending = none)
    (full : limit ≤ progress.places.length) :
    progress.read limit false (argument :: rest) = .error .unknownArgument := by
  rw [read_plain plain settled, Progress.place, if_neg (Nat.not_lt.mpr full)]
  rfl

/-! ## A whole line -/

theorem filterMap_cons_eq {α : Type} (said : Item → Option α) (item : Item) (line : List Item) :
    (item :: line).filterMap said = (said item).toList ++ line.filterMap said := by
  simp [List.filterMap_eq_flatMap_toList]

/-- The line can be said from here on: it repeats nothing. -/
structure Ready (limit : Nat) (progress : Progress) (line : List Item) : Prop where
  settled : progress.pending = none
  placed : progress.places.length ≤ limit
  switches : (progress.switches ++ line.filterMap Item.switch?).Nodup
  values : ((progress.values ++ line.filterMap Item.value?).map Prod.fst).Nodup

variable {item : Item}

theorem Ready.heard (ready : progress.Ready limit (item :: line))
    (takes : progress.Takes limit item) : (progress.heard item).Ready limit line where
  settled := rfl
  placed := by
    have placed := ready.placed
    cases item with
    | place text =>
      have room : progress.places.length < limit := takes
      simpa [Progress.heard, Item.place?] using Nat.succ_le_of_lt room
    | _ => simpa [Progress.heard, Item.place?] using placed
  switches := by
    have once := ready.switches
    rwa [filterMap_cons_eq, ← List.append_assoc] at once
  values := by
    have once := ready.values
    rwa [filterMap_cons_eq, ← List.append_assoc] at once

theorem Ready.fresh_switch (ready : progress.Ready limit (.switch switch :: line)) :
    switch ∉ progress.switches := by
  have once : (progress.switches ++ switch :: line.filterMap Item.switch?).Nodup := ready.switches
  rw [List.nodup_middle, List.nodup_cons] at once
  exact fun member => once.1 (List.mem_append_left _ member)

theorem Ready.fresh_field {text : String}
    (ready : progress.Ready limit (.value field text :: line)) :
    field ∉ progress.values.map Prod.fst := by
  have once := ready.values
  simp only [List.filterMap_cons, Item.value?, List.map_append, List.map_cons] at once
  rw [List.nodup_middle, List.nodup_cons] at once
  exact fun member => once.1 (List.mem_append_left _ member)

/-- A line that repeats nothing is understood item by item; only a stray or a place too many stops
that. -/
theorem read_line (sound : ∀ item ∈ line, item.Sound) (ready : progress.Ready limit line) :
    progress.read limit false (line.map Item.text) =
      if line.any Item.isStray ∨
          limit < progress.places.length + (line.filterMap Item.place?).length then
        .error .unknownArgument
      else .ok (line.foldl heard progress) := by
  -- what is understood so far grows by one item at a time, and stays ready for the rest
  induction line generalizing progress with
  | nil => simp [read, settle_eq ready.settled, ready.placed]
  | cons item rest ih =>
    obtain ⟨first, others⟩ := List.forall_mem_cons.mp sound
    by_cases takes : progress.Takes limit item
    · have known : item.isStray = false := by
        cases item with
        | stray => exact takes.elim
        | _ => rfl
      have places : (progress.heard item).places.length + (rest.filterMap Item.place?).length =
          progress.places.length + ((item :: rest).filterMap Item.place?).length := by
        rw [filterMap_cons_eq, ← List.length_append, ← List.length_append, ← List.append_assoc]
        rfl
      rw [List.map_cons, read_of_takes ready.settled first takes, ih others (ready.heard takes),
        places, List.any_cons, known, Bool.false_or, List.foldl_cons]
    · rw [List.map_cons]
      cases item with
      | switch switch => exact absurd ready.fresh_switch takes
      | value field text => exact absurd ready.fresh_field takes
      | place text =>
        have full : limit ≤ progress.places.length := Nat.not_lt.mp takes
        have tooMany : limit < progress.places.length +
            ((Item.place text :: rest).filterMap Item.place?).length := by
          simp only [List.filterMap_cons, Item.place?, List.length_cons]
          omega
        rw [if_pos (.inr tooMany)]
        exact read_overfull first ready.settled full
      | stray name content =>
        rw [if_pos (.inl (by simp [Item.isStray]))]
        exact read_stray first

theorem foldl_heard (line : List Item) (settled : progress.pending = none) :
    line.foldl heard progress = {
      switches := progress.switches ++ line.filterMap Item.switch?
      values := progress.values ++ line.filterMap Item.value?
      places := progress.places ++ line.filterMap Item.place?
      pending := none } := by
  induction line generalizing progress with
  | nil => simp [← settled]
  | cons item rest ih =>
    rw [List.foldl_cons, ih rfl]
    simp only [heard, filterMap_cons_eq, List.append_assoc]

end Progress

/-! ## What was said -/

theorem lookup_values (line : List Item) (field : Field) :
    (line.filterMap Item.value?).lookup field = (line.filterMap (Item.valueOf? field)).head? := by
  induction line with
  | nil => rfl
  | cons item rest ih =>
    cases item with
    | value other text =>
      by_cases same : field = other
      · simp [Item.value?, Item.valueOf?, same]
      · have apart : (field == other) = false := beq_eq_false_iff_ne.mpr same
        simp [Item.value?, Item.valueOf?, Ne.symm same, List.lookup_cons, apart, ih]
    | _ => exact ih

theorem count_fields (line : List Item) (field : Field) :
    ((line.filterMap Item.value?).map Prod.fst).count field =
      (line.filterMap (Item.valueOf? field)).length := by
  induction line with
  | nil => rfl
  | cons item rest ih =>
    cases item with
    | value other text =>
      by_cases same : other = field
      · simp [Item.value?, Item.valueOf?, same, ih]
      · simp [Item.value?, Item.valueOf?, same, ih]
    | _ => exact ih

namespace Tells

variable {invocation : Invocation}

theorem ready (told : Tells line invocation) : Progress.empty.Ready limit line where
  settled := rfl
  placed := Nat.zero_le _
  switches := by
    apply List.nodup_iff_count_le_one.mpr
    intro switch
    rw [Progress.empty, List.nil_append, told.switches]
    exact Bool.toNat_le _
  values := by
    apply List.nodup_iff_count_le_one.mpr
    intro field
    rw [Progress.empty, List.nil_append, count_fields, told.values]
    cases invocation.value? field <;> simp

theorem contains_eq (told : Tells line invocation) (switch : Switch) :
    (line.filterMap Item.switch?).contains switch = invocation.turnsOn switch := by
  have counted := told.switches switch
  cases on : invocation.turnsOn switch with
  | true =>
    rw [on] at counted
    rw [List.contains_iff_mem, ← List.count_pos_iff, counted]
    decide
  | false =>
    rw [on] at counted
    rw [← Bool.not_eq_true, List.contains_iff_mem]
    exact List.count_eq_zero.mp counted

theorem lookup_eq (told : Tells line invocation) (field : Field) :
    (line.filterMap Item.value?).lookup field = invocation.value? field := by
  rw [lookup_values, told.values, Option.head?_toList]

theorem understood (told : Tells line invocation) :
    (line.foldl Progress.heard .empty).invocation = invocation := by
  rw [Progress.foldl_heard line rfl]
  simp only [Progress.invocation, Progress.empty, List.nil_append, told.contains_eq, told.lookup_eq,
    told.places]
  rfl

end Tells

/-- A command line means the same whatever order its switches, options and places are written in: if
the places are all there and no name is unknown, then what is understood is what is said. With a name
that no option has, or with a place too many or too few, nothing is. -/
theorem parse_in_any_order (tool : Tool) (invocation : Invocation) (line : List Item)
    (told : Tells line invocation) : parse tool (line.map Item.text) =
      if line.any Item.isStray ∨ tool.places.length < invocation.places.length then
        .error .unknownArgument
      else if invocation.places.length < tool.places.length then .error .missingArgument
      else .ok invocation := by
  have places : (line.foldl Progress.heard .empty).places = invocation.places := by
    rw [Progress.foldl_heard line rfl, ← told.places]
    rfl
  have room : Progress.empty.places.length + invocation.places.length = invocation.places.length :=
    Nat.zero_add _
  rw [parse, Progress.read_line told.sound told.ready, told.places, room]
  by_cases stopped : line.any Item.isStray ∨ tool.places.length < invocation.places.length
  · rw [if_pos stopped, if_pos stopped]
    rfl
  · rw [if_neg stopped, if_neg stopped]
    by_cases few : invocation.places.length < tool.places.length
    · simp [places, few, bind, Except.bind, throw, throwThe, MonadExceptOf.throw]
    · simp [places, few, told.understood, bind, Except.bind, pure, Except.pure]

/-- Options of both spellings, with values that look like options themselves, and an empty place. -/
def jumbled : Invocation where
  access :=
    { useRole := true
      roleName := some "--json"
      accessKeyId := some ""
      secretAccessKey := some "a=b"
      endpointUrl := none
      region := none }
  report := { json := false, noColor := true, quiet := false, debug := false }
  places := ["", "s3://b/k"]

/-- The line is understood by the command with two places, and has one too many for the other. A name
with an underscore in the place of a dash is unknown. -/
theorem jumbled_understood :
    parse .transfer ["", "--aws_secret_access_key=a=b", "--no-color", "--role_name=--json",
        "s3://b/k", "--aws_access_key_id=", "--use_role"] = .ok jumbled ∧
      parse .cleanup ["", "--aws_secret_access_key=a=b", "--no-color", "--role_name=--json",
        "s3://b/k", "--aws_access_key_id=", "--use_role"] = .error .unknownArgument ∧
      parse .transfer ["--no_color", "", "--aws_secret_access_key=a=b", "--no-color",
        "--role_name=--json", "s3://b/k", "--aws_access_key_id=", "--use_role"] =
          .error .unknownArgument ∧
      parse .transfer ["--debug", "f"] = .error .missingArgument := by
  have whole : Tells [.place "", .value .secretAccessKey "a=b", .switch .noColor,
      .value .roleName "--json", .place "s3://b/k", .value .accessKeyId "", .switch .useRole]
      jumbled := by
    refine ⟨by decide, ?_, ?_, rfl⟩
    · intro switch
      cases switch <;> decide
    · intro field
      cases field <;> decide
  have strayed : Tells [.stray "no_color" none, .place "", .value .secretAccessKey "a=b",
      .switch .noColor, .value .roleName "--json", .place "s3://b/k", .value .accessKeyId "",
      .switch .useRole] jumbled :=
    ⟨by decide, whole.switches, whole.values, rfl⟩
  have short : Tells [.switch .debug, .place "f"]
      ⟨⟨false, none, none, none, none, none⟩, ⟨false, false, false, true⟩, ["f"]⟩ := by
    refine ⟨by decide, ?_, ?_, rfl⟩
    · intro switch
      cases switch <;> decide
    · intro field
      cases field <;> decide
  refine ⟨?_, ?_, ?_, ?_⟩
  · exact parse_in_any_order .transfer jumbled _ whole
  · exact parse_in_any_order .cleanup jumbled _ whole
  · exact parse_in_any_order .transfer jumbled _ strayed
  · exact parse_in_any_order .transfer _ _ short

end Arguments

end Haulage
