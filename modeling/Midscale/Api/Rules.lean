import Midscale.Api.Networks

/-!
# The ACL and DNS endpoints

`app.api.v1.acls` and `app.api.v1.dns`: rules and entries of a network, listed, added, changed and
deleted by its owner.

* `updateAcl_eq_ok` : the change of a rule; the other handlers are those of `OwnedTable`.
-/

namespace Midscale

/-- `ACLRuleCreate`. -/
structure ACLRuleCreate where
  srcTags : List String
  dstTags : List String
  action : String := "allow"
  priority : ℤ := 100

/-- `ACLRuleUpdate`. -/
structure ACLRuleUpdate where
  srcTags : Option (List String) := none
  dstTags : Option (List String) := none
  action : Option String := none
  priority : Option ℤ := none

/-- `DNSEntryCreate`. -/
structure DNSEntryCreate where
  domain : String
  address : String

def aclRulesTable : OwnedTable ACLRule where
  get := Database.aclRules
  put db t := { db with aclRules := t }
  networkId := ACLRule.networkId

def dnsEntriesTable : OwnedTable DNSEntry where
  get := Database.dnsEntries
  put db t := { db with dnsEntries := t }
  networkId := DNSEntry.networkId

/-- The row after `update_acl`. -/
def ACLRuleUpdate.apply (req : ACLRuleUpdate) (rule : ACLRule) : ACLRule :=
  { rule with
    srcTags := req.srcTags.getD rule.srcTags
    dstTags := req.dstTags.getD rule.dstTags
    action := req.action.getD rule.action
    priority := req.priority.getD rule.priority }

theorem ACLRuleUpdate.pk_apply (req : ACLRuleUpdate) (rule : ACLRule) :
    Row.pk (req.apply rule) = Row.pk rule := rfl

section

variable (env : Env) (e : Entropy) (db : Database) (token : String) (networkId : Uuid)

/-- `list_acls`. -/
def listAcls : Except ApiError (List ACLRule) :=
  listOwned aclRulesTable env db token networkId fun r r' => r.priority ≤ r'.priority

/-- `create_acl`. -/
def createAcl (req : ACLRuleCreate) : Except ApiError (ACLRule × Database) :=
  createOwned aclRulesTable env db token networkId
    { id := e.rowId
      networkId := networkId
      srcTags := req.srcTags
      dstTags := req.dstTags
      action := req.action
      priority := req.priority
      createdAt := env.now } "acl.create" "acl"

/-- `update_acl`. -/
def updateAcl (ruleId : Uuid) (req : ACLRuleUpdate) : Except ApiError (ACLRule × Database) := do
  let user ← getCurrentUser env db token
  let _ ← requireNetworkOwner db networkId user
  let rule ← findOwned aclRulesTable db networkId "ACL rule not found" ruleId
  let db := { db with aclRules := db.aclRules.modify ruleId req.apply req.pk_apply }
  .ok (req.apply rule, db.audit (user.did "acl.update" "acl" ruleId))

/-- `delete_acl`. -/
def deleteAcl (ruleId : Uuid) : Except ApiError (Unit × Database) :=
  deleteOwned aclRulesTable env db token networkId "ACL rule not found" "acl.delete" "acl" ruleId

/-- `list_dns`. -/
def listDns : Except ApiError (List DNSEntry) :=
  listOwned dnsEntriesTable env db token networkId fun e e' => e.domain ≤ e'.domain

/-- `create_dns`. -/
def createDns (req : DNSEntryCreate) : Except ApiError (DNSEntry × Database) :=
  createOwned dnsEntriesTable env db token networkId
    { id := e.rowId
      networkId := networkId
      domain := req.domain
      address := req.address
      createdAt := env.now } "dns.create" "dns"

/-- `delete_dns`. -/
def deleteDns (entryId : Uuid) : Except ApiError (Unit × Database) :=
  deleteOwned dnsEntriesTable env db token networkId "DNS entry not found" "dns.delete" "dns" entryId

end

theorem updateAcl_eq_ok {env : Env} {db db' : Database} {token : String} {networkId ruleId : Uuid}
    {req : ACLRuleUpdate} {rule : ACLRule}
    (h : updateAcl env db token networkId ruleId req = .ok (rule, db')) : ∃ user network old,
      getCurrentUser env db token = .ok user ∧ requireNetworkOwner db networkId user = .ok network ∧
        db.aclRules.get? ruleId = some old ∧ old.networkId = networkId ∧
        db' = ({ db with aclRules := db.aclRules.modify ruleId req.apply req.pk_apply }.audit
          (user.did "acl.update" "acl" ruleId)) := by
  simp only [updateAcl, bind_eq_ok, findOwned_eq_ok] at h
  obtain ⟨user, huser, network, hnet, old, ⟨hold, hid⟩, h⟩ := h
  cases h
  exact ⟨user, network, old, huser, hnet, hold, hid, rfl⟩

end Midscale
