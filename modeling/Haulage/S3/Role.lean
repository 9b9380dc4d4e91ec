/-! Names under which a role is assumed. -/
namespace Haulage.S3

/-- The resource name of a role of an account. -/
def roleArn (account role : String) : String :=
  "arn:aws:iam::" ++ account ++ ":role/" ++ role

def sessionName : String := "AssumeRoleSession"

end Haulage.S3
