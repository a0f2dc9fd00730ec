/-
The tenant and user of a request (pkg/tenant) and the session a transaction gets from them
(pkg/db/tenant_pool.go). What arrives of a header value is up to the transport.
-/

import CrossCodex.Database.JobTables

namespace CrossCodex.Tenant

open Analyzer (Text)
open Database (Session)

def validTenantID (id : Text) : Bool :=
  3 ≤ id.length && id.length ≤ 52 && (id.head?.any fun first => first.isLower) &&
    (id.getLast?.any fun last => last.isLower || last.isDigit) &&
    id.all fun character => character.isLower || character.isDigit || character = '-'

/-- A context without a user has an empty one. -/
structure Context where
  tenant : Option Text
  user : Text
deriving DecidableEq

def background : Context := ⟨none, []⟩

def withTenant (context : Context) (tenantID : Text) : Option Context :=
  if validTenantID tenantID then some { context with tenant := some tenantID } else none

def withUser (context : Context) (userID : Text) : Context :=
  if userID = [] then context else { context with user := userID }

structure Headers where
  tenantID : Text
  userID : Option Text
deriving DecidableEq

/-- UnaryClientInterceptor: no request without a tenant. -/
def clientHeaders (context : Context) : Option Headers :=
  context.tenant.map fun tenantID =>
    ⟨tenantID, if context.user = [] then none else some context.user⟩

/-- What arrives of the headers; a value the transport refuses stops the request. -/
def carried (transport : Text → Option Text) (headers : Headers) : Option Headers :=
  match transport headers.tenantID, headers.userID with
  | none, _ => none
  | some tenantID, none => some ⟨tenantID, none⟩
  | some tenantID, some userID =>
    (transport userID).map fun arrived => ⟨tenantID, some arrived⟩

/-- UnaryServerInterceptor. -/
def serverContext (headers : Headers) : Option Context :=
  if headers.tenantID = [] then none
  else (withTenant background headers.tenantID).map fun context =>
    withUser context (headers.userID.getD [])

/-- tenantPool.Begin on the app role's pool: app.current_user stays unset without a user. -/
def beginTx (context : Context) : Option Session :=
  context.tenant.map fun tenantID =>
    ⟨.app, some tenantID, if context.user = [] then none else some context.user⟩

end CrossCodex.Tenant
