/-!
# The services of the API
-/

namespace IdentityClient

inductive ApiService where
  /-- Administration of instances; needs a system user. -/
  | system
  /-- Settings of an instance. -/
  | admin
  /-- Resources of an organization. -/
  | management
  /-- What users may do with their own data. -/
  | auth
  | userV2Beta
  | userV2
  | settingsV2Beta
  | settingsV2
  | sessionV2Beta
  | sessionV2
  | organizationV2Beta
  | organizationV2
  | oidcV2Beta
  | oidcV2
  deriving DecidableEq, Repr

namespace ApiService

def all : List ApiService :=
  [.system, .admin, .management, .auth, .userV2Beta, .userV2, .settingsV2Beta, .settingsV2,
    .sessionV2Beta, .sessionV2, .organizationV2Beta, .organizationV2, .oidcV2Beta, .oidcV2]

/-- The full name, which is the first part of the paths of its methods. -/
def fullName : ApiService → String
  | .system => "zitadel.system.v1.SystemService"
  | .admin => "zitadel.admin.v1.AdminService"
  | .management => "zitadel.management.v1.ManagementService"
  | .auth => "zitadel.auth.v1.AuthService"
  | .userV2Beta => "zitadel.user.v2beta.UserService"
  | .userV2 => "zitadel.user.v2.UserService"
  | .settingsV2Beta => "zitadel.settings.v2beta.SettingsService"
  | .settingsV2 => "zitadel.settings.v2.SettingsService"
  | .sessionV2Beta => "zitadel.session.v2beta.SessionService"
  | .sessionV2 => "zitadel.session.v2.SessionService"
  | .organizationV2Beta => "zitadel.org.v2beta.OrganizationService"
  | .organizationV2 => "zitadel.org.v2.OrganizationService"
  | .oidcV2Beta => "zitadel.oidc.v2beta.OIDCService"
  | .oidcV2 => "zitadel.oidc.v2.OIDCService"

theorem mem_all (s : ApiService) : s ∈ all := by cases s <;> decide

theorem nodup_all : all.Nodup := by decide

end ApiService

end IdentityClient
