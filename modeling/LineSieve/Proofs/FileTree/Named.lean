import LineSieve.Proofs.FileTree.Items

/- The places that paths name, and what becomes of paths when a file comes to a place that was free
   or held a file or link. A path that named the place leads to the file then. Any other path leads
   where it led, unless it passes through the place: there the file stops it. -/
namespace LineSieve

def Place.named? : Place → Option (List String)
  | .found place _ => some place
  | .free parent name false => some (parent ++ [name])
  | .free _ _ true => none

theorem Place.named?_of_outline {one two : Place} (same : one.outline = two.outline) :
    one.named? = two.named? := by
  cases one with
  | found place node =>
    cases two with
    | found other now =>
      obtain ⟨rfl, -⟩ := Outline.found.inj same
      rfl
    | free parent name slash => cases same
  | free parent name slash =>
    cases two with
    | found other now => cases same
    | free above last more =>
      obtain ⟨rfl, rfl, rfl⟩ := Outline.free.inj same
      rfl

namespace FileTree

/-- A path names a place, without following the last link. -/
def Names (tree : FileTree) (path : String) (place : List String) : Prop :=
  ∃ led, tree.resolve false path = .ok led ∧ led.named? = some place

section LastName

variable {top : Listing} {links : Nat} {here todo place : List String} {led : Place}

theorem Routed.last (routed : Routed top false links here todo (.ok led)) (more : todo ≠ [])
    (busy : ∀ place entries, led ≠ .found place (.directory entries))
    (named : led.named? = some place) : place.getLast? = todo.getLast? := by
  generalize ended : Except.ok led = result at routed
  induction routed with
  | arrived | lost => exact absurd rfl more
  | blocked | long | absent | hollow | exhausted => cases ended
  | @idle links here rest name entries result held idle later ih =>
    by_cases last : rest = []
    · subst last
      cases ended.trans (later.unique (.arrived held))
      exact absurd rfl (busy here entries)
    · rw [List.getLast?_cons_of_ne_nil last]
      exact ih last ended
  | @rise links here rest entries result held later ih =>
    by_cases last : rest = []
    · subst last
      obtain ⟨above, held⟩ := Listing.at?_take held (here.length - 1)
      rw [← List.dropLast_eq_take] at held
      cases ended.trans (later.unique (.arrived held))
      exact absurd rfl (busy _ above)
    · rw [List.getLast?_cons_of_ne_nil last]
      exact ih last ended
  | @vacant links here rest name entries held plain missing ends =>
    cases ended
    cases rest with
    | nil =>
      cases named
      simp
    | cons second rest => cases named
  | kept held plain link lax =>
    cases ended
    cases named
    simp
  | @turn links here rest name target entries result held plain link followed proper later ih =>
    have more : rest ≠ [] := followed.resolve_right Bool.false_ne_true
    rw [List.getLast?_cons_of_ne_nil more, ← List.getLast?_append_of_ne_nil (names target) more]
    exact ih (List.append_ne_nil_of_right_ne_nil _ more) ended
  | @descend links here rest name entries node result held plain entry unlinked later ih =>
    by_cases last : rest = []
    · subst last
      have stands := (Listing.at?_concat held name).trans entry
      cases ended.trans (later.unique (.arrived stands))
      cases named
      simp
    · rw [List.getLast?_cons_of_ne_nil last]
      exact ih last ended

end LastName

/-- A file has come to a place where no directory was, and what other places are is as before. -/
structure Gains (one two : Listing) (odd : List String) (content : ByteArray) : Prop where
  elsewhere : ∀ here, here ≠ odd → (two.at? here).map Node.kind = (one.at? here).map Node.kind
  there : two.at? odd = some (.file content)
  single : ∀ entries, one.at? odd ≠ some (.directory entries)

/-- How a path leads in a tree and in the tree that has gained a file. -/
inductive Diverted (one : Listing) (odd : List String) (content : ByteArray) :
    Except FileFault Place → Except FileFault Place → Prop where
  | same {result after : Except FileFault Place}
      (outline : after.map Place.outline = result.map Place.outline) :
      Diverted one odd content result after
  | arrives {led : Place} (named : led.named? = some odd) :
      Diverted one odd content (.ok led) (.ok (.found odd (.file content)))
  | stopped {result : Except FileFault Place}
      (passes : (∃ target, one.at? odd = some (.link target)) ∨
        ∀ led, result = .ok led → led.named? = none) :
      Diverted one odd content result (.error .notDirectory)

theorem Diverted.of_error (one : Listing) (odd : List String) (content : ByteArray)
    (fault : FileFault) : Diverted one odd content (.error fault) (.error .notDirectory) := by
  refine .stopped (.inr fun led ended => ?_)
  cases ended

namespace Gains

variable {one two : Listing} {odd : List String} {content : ByteArray}

theorem directory (gains : Gains one two odd content) {here : List String} {entries : Listing}
    (held : one.at? here = some (.directory entries)) :
    here ≠ odd ∧ ∃ others, two.at? here = some (.directory others) ∧
      ∀ name, here ++ [name] ≠ odd →
        (others.find? name).map Node.kind = (entries.find? name).map Node.kind := by
  have differs : here ≠ odd := by
    rintro rfl
    exact gains.single entries held
  obtain ⟨others, found⟩ := kind_directory (gains.elsewhere here differs) held
  refine ⟨differs, others, found, fun name other => ?_⟩
  rw [← Listing.at?_concat held, ← Listing.at?_concat found]
  exact gains.elsewhere _ other

theorem no_directory (gains : Gains one two odd content) {here : List String}
    (stopped : ∀ entries, one.at? here ≠ some (.directory entries)) (entries : Listing) :
    two.at? here ≠ some (.directory entries) := by
  intro found
  by_cases same : here = odd
  · rw [same, gains.there] at found
    cases found
  · obtain ⟨others, held⟩ := kind_directory (gains.elsewhere here same).symm found
    exact stopped others held

theorem arrives (gains : Gains one two odd content) {here rest : List String} {name : String}
    {links : Nat} {others : Listing} (found : two.at? here = some (.directory others))
    (plain : PlainName name) (reaches : here ++ [name] = odd) :
    Routed two false links here (name :: rest)
      (if rest = [] then .ok (.found odd (.file content)) else .error .notDirectory) := by
  have file : others.find? name = some (.file content) := by
    rw [← Listing.at?_concat found, reaches, gains.there]
  rw [← reaches] at gains ⊢
  exact .descend found plain file nofun (.of_file gains.there rest)

theorem barred (gains : Gains one two odd content) {here rest : List String} {name : String}
    {links : Nat} {others : Listing} (found : two.at? here = some (.directory others))
    (plain : PlainName name) (reaches : here ++ [name] = odd) (more : rest ≠ [])
    (fault : FileFault) : ∃ after, Routed two false links here (name :: rest) after ∧
      Diverted one odd content (.error fault) after := by
  refine ⟨_, gains.arrives found plain reaches, ?_⟩
  rw [if_neg more]
  exact .of_error _ _ _ _

theorem diverted (gains : Gains one two odd content) {links : Nat} {here todo : List String}
    {result : Except FileFault Place} (routed : Routed one false links here todo result)
    (start : todo = [] → one.at? here = none → here ≠ odd) :
    ∃ after, Routed two false links here todo after ∧ Diverted one odd content result after := by
  -- A step is the same in both trees unless it comes to `odd`, where the path ends or is stopped.
  induction routed with
  | @arrived links here node held =>
    by_cases same : here = odd
    · subst same
      exact ⟨_, .arrived gains.there, .arrives rfl⟩
    · have kind := gains.elsewhere here same
      rw [held] at kind
      obtain ⟨other, there, alike⟩ := Option.map_eq_some_iff.mp kind
      exact ⟨_, .arrived there, .same (by simp [Except.map, Place.outline, alike])⟩
  | @lost links here missing =>
    have kind := gains.elsewhere here (start rfl missing)
    exact ⟨_, .lost (kind_none kind missing), .same rfl⟩
  | blocked single => exact ⟨_, .blocked (gains.no_directory single), .same rfl⟩
  | idle held idle later ih =>
    obtain ⟨differs, others, found, -⟩ := gains.directory held
    obtain ⟨after, later, ends⟩ := ih fun _ _ => differs
    exact ⟨after, .idle found idle later, ends⟩
  | @rise links here rest entries result held later ih =>
    obtain ⟨differs, others, found, -⟩ := gains.directory held
    obtain ⟨above, up⟩ := Listing.at?_take held (here.length - 1)
    rw [← List.dropLast_eq_take] at up
    obtain ⟨after, later, ends⟩ := ih fun _ _ => (gains.directory up).1
    exact ⟨after, .rise found later, ends⟩
  | long held busy level long =>
    obtain ⟨-, others, found, -⟩ := gains.directory held
    exact ⟨_, .long found busy level long, .same rfl⟩
  | @vacant links here rest name entries held plain missing ends =>
    obtain ⟨-, others, found, kinds⟩ := gains.directory held
    by_cases reaches : here ++ [name] = odd
    · refine ⟨_, gains.arrives found plain reaches, ?_⟩
      cases rest with
      | nil => exact .arrives (congrArg some reaches)
      | cons second rest =>
        refine .stopped (.inr ?_)
        rintro _ ⟨⟩
        rfl
    · exact ⟨_, .vacant found plain (kind_none (kinds _ reaches) missing) ends, .same rfl⟩
  | @absent links here rest name entries held plain missing more =>
    obtain ⟨-, others, found, kinds⟩ := gains.directory held
    by_cases reaches : here ++ [name] = odd
    · exact gains.barred found plain reaches (fun none => more (by simp [none])) _
    · exact ⟨_, .absent found plain (kind_none (kinds _ reaches) missing) more, .same rfl⟩
  | @kept links here name target entries held plain link lax =>
    obtain ⟨-, others, found, kinds⟩ := gains.directory held
    by_cases reaches : here ++ [name] = odd
    · exact ⟨_, gains.arrives found plain reaches, .arrives (congrArg some reaches)⟩
    · exact ⟨_, .kept found plain (kind_link (kinds _ reaches) link) lax, .same rfl⟩
  | @hollow links here rest name entries held plain link followed =>
    obtain ⟨-, others, found, kinds⟩ := gains.directory held
    by_cases reaches : here ++ [name] = odd
    · exact gains.barred found plain reaches (followed.resolve_right Bool.false_ne_true) _
    · exact ⟨_, .hollow found plain (kind_link (kinds _ reaches) link) followed, .same rfl⟩
  | @exhausted here rest name target entries held plain link followed proper =>
    obtain ⟨-, others, found, kinds⟩ := gains.directory held
    by_cases reaches : here ++ [name] = odd
    · exact gains.barred found plain reaches (followed.resolve_right Bool.false_ne_true) _
    · have link := kind_link (kinds _ reaches) link
      exact ⟨_, .exhausted found plain link followed proper, .same rfl⟩
  | @turn links here rest name target entries result held plain link followed proper later ih =>
    obtain ⟨differs, others, found, kinds⟩ := gains.directory held
    by_cases reaches : here ++ [name] = odd
    · refine ⟨_, gains.arrives found plain reaches, ?_⟩
      rw [if_neg (followed.resolve_right Bool.false_ne_true)]
      refine .stopped (.inl ⟨target, ?_⟩)
      rw [← reaches, Listing.at?_concat held, link]
    · have start : (if isRooted target then [] else here) ≠ odd := by
        split
        · rintro rfl
          exact gains.single one rfl
        · exact differs
      obtain ⟨after, later, ends⟩ := ih fun _ _ => start
      have link := kind_link (kinds _ reaches) link
      exact ⟨after, .turn found plain link followed proper later, ends⟩
  | @descend links here rest name entries inner result held plain entry unlinked later ih =>
    obtain ⟨-, others, found, kinds⟩ := gains.directory held
    have stands := (Listing.at?_concat held name).trans entry
    by_cases reaches : here ++ [name] = odd
    · refine ⟨_, gains.arrives found plain reaches, ?_⟩
      cases inner with
      | file old =>
        obtain rfl := later.unique (.of_file stands rest)
        split
        · exact .arrives (congrArg some reaches)
        · exact .same rfl
      | link target => exact absurd rfl (unlinked target)
      | directory inner => exact absurd (reaches ▸ stands) (gains.single inner)
    · obtain ⟨other, there, unlinked⟩ := kind_other (kinds _ reaches) entry unlinked
      obtain ⟨after, later, ends⟩ := ih fun _ missing => by simp [stands] at missing
      exact ⟨after, .descend found plain there unlinked later, ends⟩

end Gains

theorem Alters.gains {one two : FileTree} {odd : List String} {content : ByteArray}
    (alters : one.Alters two odd (some (.file content)))
    (single : one.top.item? odd ≠ some .directory) : Gains one.top two.top odd content where
  elsewhere here other := by
    have kinds : (two.top.item? here).map Item.kind = (one.top.item? here).map Item.kind :=
      congrArg _ (alters.elsewhere other)
    unfold Listing.item? at kinds
    simpa only [Option.map_map, Function.comp_def, Node.kind_item] using kinds
  there := Listing.item?_eq_file.mp alters.self
  single entries held := single (Listing.item?_eq_directory.mpr ⟨entries, held⟩)

theorem Alters.grows {one two : FileTree} {place : List String} {content : ByteArray}
    (alters : one.Alters two place (some (.file content)))
    (single : one.top.item? place ≠ some .directory) : one.Grows two := by
  refine ⟨alters.origin, fun here node held => ?_⟩
  have gains := alters.gains single
  by_cases same : here = place
  · subst same
    refine ⟨_, gains.there, ?_⟩
    cases node with
    | file old => exact .inl rfl
    | link target => exact .inr ⟨⟨target, rfl⟩, rfl⟩
    | directory entries => exact absurd held (gains.single entries)
  · have kind := gains.elsewhere here same
    rw [held] at kind
    obtain ⟨now, there, same⟩ := Option.map_eq_some_iff.mp kind
    exact ⟨now, there, .inl same⟩

theorem Matches.grows {one two : FileTree} (same : one.Matches two) : one.Grows two := by
  refine ⟨same.origin, fun here node held => ?_⟩
  have item : two.top.item? here = some node.item := by
    rw [same.items, Listing.item?_of_at? held]
  obtain ⟨now, there, alike⟩ := Option.map_eq_some_iff.mp item
  exact ⟨now, there, .inl (by rw [← Node.kind_item, alike, Node.kind_item])⟩

section Tree

variable {one two : FileTree} {odd : List String} {content : ByteArray} {path : String}

theorem resolve_free_items {tree : FileTree} {follow slash : Bool} {parent : List String}
    {name : String} (led : tree.resolve follow path = .ok (.free parent name slash)) :
    tree.top.item? parent = some .directory ∧ tree.top.item? (parent ++ [name]) = none := by
  obtain ⟨entries, above, missing⟩ := resolve_free led
  refine ⟨Listing.item?_eq_directory.mpr ⟨entries, above⟩, ?_⟩
  rw [Listing.item?, Listing.at?_concat above, missing]
  rfl

def lastName (path : String) : String := String.ofList (Path.afterSlash path.toList)

theorem names_last (path : String) : (names path).getLast? = some (lastName path) := by
  rw [names, List.getLast?_map, Path.parts_last]
  rfl

theorem names_proper (path : String) : names path ≠ [] := by
  intro none
  have last := names_last path
  rw [none] at last
  cases last

namespace Names

variable {tree : FileTree} {place : List String}

theorem single (named : tree.Names path place) (single : tree.top.item? place ≠ some .directory) :
    ∃ led, tree.resolve false path = .ok led ∧ led.named? = some place ∧
      ∀ other entries, led ≠ .found other (.directory entries) := by
  obtain ⟨led, result, named⟩ := named
  refine ⟨led, result, named, ?_⟩
  rintro other entries rfl
  obtain rfl := Option.some.inj named
  exact single (Listing.item?_of_at? (resolve_found result))

theorem last (named : tree.Names path place) (single : tree.top.item? place ≠ some .directory) :
    place.getLast? = some (lastName path) := by
  obtain ⟨led, result, named, busy⟩ := named.single single
  rw [← names_last]
  unfold resolve at result
  split at result
  · cases result
  · exact (routed_iff.mpr result).last (names_proper path) busy named

theorem above (named : tree.Names path place) (single : tree.top.item? place ≠ some .directory) :
    ∃ parent name, place = parent ++ [name] ∧ tree.top.item? parent = some .directory := by
  obtain ⟨led, result, named⟩ := named
  cases led with
  | found other node =>
    obtain rfl := Option.some.inj named
    have held := Listing.item?_of_at? (resolve_found result)
    exact Listing.item?_above held fun same => single (held.trans (congrArg some same))
  | free parent name slash =>
    cases slash with
    | true => cases named
    | false => exact ⟨parent, name, (Option.some.inj named).symm, (resolve_free_items result).1⟩

theorem free (named : tree.Names path place) (free : tree.top.item? place = none)
    (other : List String) (node : Node) : tree.resolve false path ≠ .ok (.found other node) := by
  intro found
  obtain ⟨led, result, named⟩ := named
  obtain rfl := Except.ok.inj (result.symm.trans found)
  obtain rfl := Option.some.inj named
  rw [Listing.item?_of_at? (resolve_found found)] at free
  cases free

end Names

theorem ok_of_outline {result after : Except FileFault Place} {led : Place}
    (same : after.map Place.outline = result.map Place.outline) (ended : result = .ok led) :
    ∃ now, after = .ok now ∧ now.outline = led.outline := by
  subst ended
  cases after with
  | error fault => cases same
  | ok now => exact ⟨now, rfl, Except.ok.inj same⟩

namespace Alters

theorem diverted (alters : one.Alters two odd (some (.file content)))
    (single : one.top.item? odd ≠ some .directory) (path : String) :
    Diverted one.top odd content (one.resolve false path) (two.resolve false path) := by
  unfold resolve
  split
  · exact .same rfl
  · obtain ⟨after, led, diverted⟩ := (alters.gains single).diverted (routed _ _ _ _ _) fun none =>
      absurd none (names_proper path)
    rw [alters.origin, led.eq]
    exact diverted

/-- A path that named the place leads to the file, unless it passed through a link that was there.
-/
theorem resolve_self (alters : one.Alters two odd (some (.file content)))
    (single : one.top.item? odd ≠ some .directory) (named : one.Names path odd) :
    two.resolve false path = .ok (.found odd (.file content)) ∨
      (∃ target, one.top.at? odd = some (.link target)) ∧
        two.resolve false path = .error .notDirectory := by
  obtain ⟨led, result, named⟩ := named
  have diverted := alters.diverted single path
  rw [result] at diverted
  generalize ended : two.resolve false path = after at diverted
  cases diverted with
  | same outline =>
    obtain ⟨now, rfl, same⟩ := ok_of_outline outline rfl
    rw [← Place.named?_of_outline same] at named
    have there : two.top.at? odd = some (.file content) := (alters.gains single).there
    cases now with
    | found place node =>
      obtain rfl := Option.some.inj named
      obtain rfl := Option.some.inj ((resolve_found ended).symm.trans there)
      exact .inl rfl
    | free parent name slash =>
      cases slash with
      | true => cases named
      | false =>
        obtain ⟨-, free⟩ := resolve_free_items ended
        obtain rfl := Option.some.inj named
        rw [Listing.item?_of_at? there] at free
        cases free
  | arrives => exact .inl rfl
  | stopped passes =>
    rcases passes with link | unnamed
    · exact .inr ⟨link, rfl⟩
    · rw [unnamed led rfl] at named
      cases named

theorem names_before (alters : one.Alters two odd (some (.file content)))
    (single : one.top.item? odd ≠ some .directory) {other : List String}
    (named : two.Names path other) (differs : other ≠ odd) : one.Names path other := by
  obtain ⟨led, result, named⟩ := named
  have diverted := alters.diverted single path
  rw [result] at diverted
  generalize ended : one.resolve false path = before at diverted
  cases diverted with
  | same outline =>
    obtain ⟨before, rfl, same⟩ := ok_of_outline outline.symm rfl
    exact ⟨before, ended, (Place.named?_of_outline same).trans named⟩
  | arrives => exact absurd (Option.some.inj named).symm differs

theorem names_after (alters : one.Alters two odd (some (.file content)))
    (single : one.top.item? odd ≠ some .directory) {other : List String}
    (named : one.Names path other) (differs : other ≠ odd) :
    two.Names path other ∨ (∃ target, one.top.at? odd = some (.link target)) ∧
      two.resolve false path = .error .notDirectory := by
  obtain ⟨led, result, named⟩ := named
  have diverted := alters.diverted single path
  rw [result] at diverted
  generalize ended : two.resolve false path = after at diverted
  cases diverted with
  | same outline =>
    obtain ⟨after, rfl, same⟩ := ok_of_outline outline rfl
    exact .inl ⟨after, ended, (Place.named?_of_outline same).trans named⟩
  | arrives same => exact absurd (Option.some.inj (named.symm.trans same)) differs
  | stopped passes =>
    rcases passes with link | unnamed
    · exact .inr ⟨link, rfl⟩
    · rw [unnamed led rfl] at named
      cases named

end Alters

end Tree

end FileTree

end LineSieve
