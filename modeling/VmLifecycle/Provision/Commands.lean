import VmLifecycle.Provision.Options

/-!
# Commands for the guest

The shell commands by which a guest is provisioned and inspected, and the help
that is shown when it is up.
-/

namespace VmLifecycle.Guest

/-- File with the options of the last provisioning run. -/
def optionsPath : String := "/var/pcfdev/provision-options.json"

/-- File that exists once the platform is healthy. -/
def markerPath : String := "/run/pcfdev-healthcheck"

def scriptPath : String := "/var/pcfdev/provision"

def certificatePath : String := "/var/pcfdev/openssl/ca_cert.pem"

/-- Hash of the password that the provisioning user starts with. -/
def firstPasswordHash : String :=
  "$6$YmhF.pIF$EBQqLoVjtmcYsvt6BOPqQHLDSUNFx.zmX6dUv55/BnBTgbQmDkiZfJSrRDFtUOWn5IjMc5EyqzOBeT48DJh/Y/"

/-- What the marker check prints in a provisioned guest. -/
def provisionedToken : String := "provisioned"

def adminUser : String := "admin"

def adminPassword : String := "admin"

def organisation : String := "pcfdev-org"

def sshPort : UInt16 := 22

/-- Name of the rule that forwards a port of the host to it. -/
def sshRule : String := "ssh"

/-- Address of the host on which the port is forwarded. -/
def sshAddress : String := "127.0.0.1"

def installPasswordCommand : String :=
  "echo 'vcap:" ++ firstPasswordHash ++ "' | sudo chpasswd -e"

/-- Prints the stored options, or nothing if there are none. -/
def printOptionsCommand : String :=
  "if [ -f " ++ optionsPath ++ " ]; then sudo cat " ++ optionsPath ++ "; fi"

/-- Prints a token if provisioning has completed. -/
def printMarkerCommand : String :=
  "if [ -e " ++ markerPath ++ " ]; then echo " ++ provisionedToken ++ "; fi"

/-- Whether the output of the marker check says that provisioning completed. -/
def saysProvisioned (output : String) : Bool :=
  Text.trim output = provisionedToken

def printCertificateCommand : String :=
  "sudo cat " ++ certificatePath

/-- Runs the provisioning script, each option between double quotes. -/
def provisionCommand (o : ProvisionOptions) : String :=
  "sudo -H " ++ scriptPath ++ " \"" ++ o.domain ++ "\" \"" ++ o.ip ++ "\" \"" ++ o.services ++
    "\" \"" ++ String.intercalate "," o.registries ++ "\""

/-- A text between single quotes: a quote in it closes them, stands escaped,
and opens them again. -/
def singleQuoted (s : String) : String :=
  String.ofList ('\'' :: (s.toList.flatMap fun c =>
    if c = '\'' then ['\'', '\\', '\'', '\''] else [c]) ++ ['\''])

/-- Stores the options. -/
def storeOptionsCommand (o : ProvisionOptions) : String :=
  "echo " ++ singleQuoted (Json.encode o) ++ " | sudo tee " ++ optionsPath ++ " > /dev/null"

/-- How to log in to the platform under a domain. -/
def accessLines (domain : String) : String :=
  "Apps Manager URL: https://apps." ++ domain ++
    "\nAdmin user => Email: " ++ adminUser ++ " / Password: " ++ adminPassword ++
    "\nRegular user => Email: user / Password: pass"

/-- The command that logs the command line client in. -/
def loginCommand (domain : String) : String :=
  "cf login -a https://api." ++ domain ++ " --skip-ssl-validation"

/-- Shown once the platform is up. -/
def welcomeText (domain : String) : String :=
  "PCF Dev is now running.\nTo begin using PCF Dev, please run:\n   " ++ loginCommand domain ++
    "\n" ++ accessLines domain

/-- The status of a platform that is up. -/
def statusText (domain : String) : String :=
  "Running\nCLI Login: " ++ loginCommand domain ++ "\n" ++ accessLines domain

end VmLifecycle.Guest
