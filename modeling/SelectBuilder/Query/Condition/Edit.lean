import SelectBuilder.Query.Reading

/-! # Edits of the filter tree

Edits address groups and conditions by id. An edit that has nothing to do answers `none`, which
stands for the tree as it was; a group that is looked for is not looked for again inside itself.
-/

namespace SelectBuilder

/-- The outcome of taking conditions out of a tree. -/
inductive Pruned (α : Type) where
  | untouched
  | emptied
  | trimmed (rest : α)

/-- What is left of `a`. -/
def Pruned.rest {α : Type} (a : α) : Pruned α → Option α
  | .untouched => some a
  | .emptied => none
  | .trimmed rest => some rest

/-- Whether a patch asks for any change at all; the id and the tag cannot be changed. -/
def Fields.changesNothing (fs : Fields) : Bool :=
  fs.all fun f => f.1 = "id" || f.1 = "kind"

/-- Whether a field of the written form has a value. The values of a list condition are no single
value and match none. A condition has no other fields than those of its written form. -/
def Condition.fieldIs (c : Condition) (name : String) (v : Value) : Except Misfit Bool :=
  match c.fields.lookup name with
  | none => .error .lacking
  | some w => if name = "values" then .ok false else w.testSame v

namespace ConditionGroup

/-! ## Edits of one group -/

def addCondition (g : ConditionGroup) (c : Condition) : ConditionGroup :=
  { g with conditions := g.conditions ++ [c] }

/-- Remove the conditions with an id from the group itself. -/
def removeCondition (g : ConditionGroup) (id : String) : Option ConditionGroup :=
  let kept := g.conditions.filter (·.id ≠ id)
  if kept.length = g.conditions.length then none else some { g with conditions := kept }

def addGroup (g new : ConditionGroup) : ConditionGroup :=
  { g with groups := g.groups ++ [new] }

/-! ## Edits at any depth -/

mutual

/-- Change the groups with an id; `change` is given the depth at which it finds the group. -/
def changeAt (id : String) (change : ConditionGroup → Int → Option ConditionGroup) (depth : Int) :
    ConditionGroup → Option ConditionGroup
  | ⟨own, connective, conditions, groups⟩ =>
    if own = id then change ⟨own, connective, conditions, groups⟩ depth
    else (changeIn id change (depth + 1) groups).map (⟨own, connective, conditions, ·⟩)

def changeIn (id : String) (change : ConditionGroup → Int → Option ConditionGroup) (depth : Int) :
    List ConditionGroup → Option (List ConditionGroup)
  | [] => none
  | g :: gs =>
    match changeAt id change depth g, changeIn id change depth gs with
    | none, none => none
    | g', gs' => some (g'.getD g :: gs'.getD gs)

end

def addConditionTo (g : ConditionGroup) (id : String) (c : Condition) : Option ConditionGroup :=
  g.changeAt id (fun g _ => some (g.addCondition c)) 0

/-- Nest `new` in the groups with an id, unless it would reach beyond the limit. -/
def nest (g : ConditionGroup) (id : String) (new : ConditionGroup) (limit : DepthLimit) :
    Option ConditionGroup :=
  g.changeAt id
    (fun g depth =>
      if limit.excludes (depth + (1 + new.height)) then none else some (g.addGroup new)) 0

/-- Patch the groups with an id. A patch is read only if there is such a group. -/
def update (g : ConditionGroup) (id : String) (fs : Fields) : Checked (Option ConditionGroup) :=
  if (g.find? id).isNone || fs.changesNothing then .ok none
  else (fun change => g.changeAt id (fun g _ => some (change g)) 0) <$> patch fs

mutual

/-- Remove the groups with an id from below a group. -/
def without (id : String) : ConditionGroup → Option ConditionGroup
  | ⟨own, connective, conditions, groups⟩ =>
    (withoutIn id groups).map (⟨own, connective, conditions, ·⟩)

def withoutIn (id : String) : List ConditionGroup → Option (List ConditionGroup)
  | [] => none
  | g :: gs =>
    let rest := withoutIn id gs
    if g.id = id then some (rest.getD gs)
    else
      match without id g, rest with
      | none, none => none
      | g', rest => some (g'.getD g :: rest.getD gs)

end

/-- Remove the nested groups with an id; the root stays. -/
def removeGroup (g : ConditionGroup) (id : String) : Option ConditionGroup :=
  if g.id = id then none else g.without id

mutual

/-- Change the conditions with an id, in the group and below it. -/
def changeConditions (id : String) (change : Condition → Condition) :
    ConditionGroup → Option ConditionGroup
  | ⟨own, connective, conditions, groups⟩ =>
    match conditions.any (·.id = id), changeConditionsIn id change groups with
    | false, none => none
    | _, groups' =>
      some ⟨own, connective, conditions.map (fun c => if c.id = id then change c else c),
        groups'.getD groups⟩

def changeConditionsIn (id : String) (change : Condition → Condition) :
    List ConditionGroup → Option (List ConditionGroup)
  | [] => none
  | g :: gs =>
    match changeConditions id change g, changeConditionsIn id change gs with
    | none, none => none
    | g', gs' => some (g'.getD g :: gs'.getD gs)

end

/-- Patch the conditions with an id. A patch is read only if there is such a condition, and then
counts as a change whatever it holds. -/
def updateCondition (g : ConditionGroup) (id : String) (fs : Fields) :
    Checked (Option ConditionGroup) :=
  if g.allConditions.any (·.id = id) then
    (fun change => g.changeConditions id change) <$> Condition.patch fs
  else .ok none

/-! ## Pruning -/

mutual

/-- Take out the conditions that match, and the groups that are empty as a result. A group that
was empty before stays. -/
def prune (matched : Condition → Bool) : ConditionGroup → Pruned ConditionGroup
  | ⟨own, connective, conditions, groups⟩ =>
    let kept := conditions.filter (!matched ·)
    match conditions.any matched, pruneIn matched groups with
    | false, none => .untouched
    | _, groups' =>
      let groups' := groups'.getD groups
      if kept.isEmpty && groups'.isEmpty then .emptied
      else .trimmed ⟨own, connective, kept, groups'⟩

def pruneIn (matched : Condition → Bool) : List ConditionGroup → Option (List ConditionGroup)
  | [] => none
  | g :: gs =>
    let rest := pruneIn matched gs
    match prune matched g, rest with
    | .untouched, none => none
    | .untouched, some gs' => some (g :: gs')
    | .emptied, rest => some (rest.getD gs)
    | .trimmed g', rest => some (g' :: rest.getD gs)

end

def removeConditionFrom (g : ConditionGroup) (id : String) : Pruned ConditionGroup :=
  g.prune (·.id = id)

/-- Prune the conditions in which a field has a value, if that can be told of every condition. -/
def removeConditionsWhere (g : ConditionGroup) (name : String) (v : Value) :
    Except Misfit (Pruned ConditionGroup) := do
  let _ ← g.allConditions.mapM (·.fieldIs name v)
  return g.prune fun c => (c.fieldIs name v).toOption = some true

end ConditionGroup

end SelectBuilder
