import KubeNovaOperator.Builder.Backend

/-!
# Desired state of the web tier (`internal/builder/web.go`)

`buildWebResources` is `BuildWebResources`: the front end's Deployment and Service, the
generated nginx ConfigMap unless the spec names its own, and the Ingress in ingress mode.

The nginx configuration is kept by its structure: each constant block of the source's
templates is its first line, and every value the source interpolates (the storage endpoint,
the proxy path and scheme) and every branch (MinIO proxy, HTTPS redirect, HTTPS server) is
kept.  Nothing reads the text back; the controller only compares it with what is stored.

The volume mounts of `getWebVolumeMounts` hold two entries named `nginx-config`, one per
file of the ConfigMap mounted with a `subPath`; `KubeNovaOperator.Diff` is where that
matters.
-/

namespace KubeNovaOperator

/-! ### The nginx configuration -/

/-- Whether the front end serves HTTPS itself: node-port mode with HTTPS enabled. -/
def WebConfig.servesHTTPS (w : WebConfig) : Bool :=
  w.exposeType == "nodeport" && w.nodePortHTTPSEnabled

/-- `buildNginxConf`: a constant file. -/
def buildNginxConf : String := "# Nginx main configuration file\n"

/-- `buildLocationBlocks`: the API proxies, the MinIO proxy when enabled, the static files. -/
def buildLocationBlocks (kn : KubeNova) : String :=
  "\n    # WebSocket proxy for console pod\n" ++
  (if kn.isMinIOProxyEnabled then
    let pathPrefix := kn.getMinIOProxyPath
    let proxyScheme := if kn.spec.storage.tlsEnabled then "https" else "http"
    "\n    # MinIO proxy\n    # " ++ proxyScheme ++ "\n    location " ++ pathPrefix ++
      "/ \x7b\n        rewrite ^" ++ pathPrefix ++ "/(.*)$ /$1 break;\n        proxy_pass " ++
      proxyScheme ++ "://minio_backend;\n" ++
    (if kn.spec.storage.tlsEnabled then "\n        # MinIO TLS\n" else "") ++ "    \x7d\n"
   else "") ++
  "\n    # Static files\n"

/-- `buildHTTPServerBlock`: a redirect to HTTPS when the front end serves HTTPS itself,
else the site. -/
def buildHTTPServerBlock (kn : KubeNova) : String :=
  "\n# Main HTTP server block\n" ++
  if kn.spec.web.servesHTTPS then "\n    # redirect to HTTPS\n\x7d\n"
  else "\n    # Root directory\n" ++ buildLocationBlocks kn ++ "\x7d\n"

/-- `buildHTTPSServerBlock`. -/
def buildHTTPSServerBlock (kn : KubeNova) : String :=
  "\n# HTTPS server block (NodePort mode)\n" ++ buildLocationBlocks kn ++ "\x7d\n"

/-- `buildDefaultConf`: the upstreams, the MinIO upstream, the server blocks. -/
def buildDefaultConf (kn : KubeNova) (_ns : String) : String :=
  "# Upstream definitions\n" ++
  (if kn.isMinIOProxyEnabled then
    "\n# MinIO upstream\nupstream minio_backend \x7b\n    least_conn;\n    server " ++
      kn.spec.storage.endpoint ++ " max_fails=3 fail_timeout=30s;\n"
   else "") ++
  buildHTTPServerBlock kn ++
  (if kn.spec.web.servesHTTPS then buildHTTPSServerBlock kn else "")

/-- `buildNginxConfigMap`. -/
def buildNginxConfigMap (kn : KubeNova) (ns : String) : ConfigMap :=
  { name := "frontend-nginx-config",
    data := ⟨[("nginx.conf", buildNginxConf), ("default.conf", buildDefaultConf kn ns)]⟩ }

/-! ### Deployment, Service, Ingress -/

/-- `getWebPorts`: HTTP, and HTTPS when the front end serves it. -/
def getWebPorts (kn : KubeNova) : List ContainerPort :=
  [{ name := "http", containerPort := 80 }] ++
  (if kn.spec.web.servesHTTPS then [{ name := "https", containerPort := 443 }] else [])

/-- Whether the HTTPS certificate is mounted: HTTPS served with a secret named. -/
def WebConfig.mountsCerts (w : WebConfig) : Bool :=
  w.servesHTTPS &&
    ((w.nodePort.bind NodePortConfig.https).map NodePortHTTPSConfig.secretName).getD "" != ""

/-- `getWebVolumeMounts`: nginx's writable directories, the two files of the nginx
ConfigMap (both from the volume `nginx-config`), and the certificates. -/
def getWebVolumeMounts (kn : KubeNova) : List VolumeMount :=
  [{ name := "cache", mountPath := "/var/cache/nginx" },
   { name := "logs", mountPath := "/var/log/nginx" },
   { name := "run", mountPath := "/var/run" },
   { name := "nginx-config", mountPath := "/etc/nginx/nginx.conf", subPath := "nginx.conf" },
   { name := "nginx-config", mountPath := "/etc/nginx/conf.d/default.conf",
     subPath := "default.conf" }] ++
  (if kn.spec.web.mountsCerts then
    [{ name := "tls-certs", mountPath := "/etc/nginx/certs", readOnly := true }]
   else [])

/-- `getWebVolumes`: the nginx ConfigMap (the spec's own if named), three `emptyDir`s, and
the certificate secret. -/
def getWebVolumes (kn : KubeNova) (_ns : String) : List Volume :=
  let w := kn.spec.web
  let configMapName :=
    if w.customNginxConfigMap ≠ "" then w.customNginxConfigMap else "frontend-nginx-config"
  [{ name := "nginx-config",
     source := .configMap configMapName
       [{ key := "nginx.conf", path := "nginx.conf" },
        { key := "default.conf", path := "default.conf" }] },
   { name := "cache", source := .emptyDir (some "1Gi") },
   { name := "logs", source := .emptyDir (some "500Mi") },
   { name := "run", source := .emptyDir (some "10Mi") }] ++
  (if w.mountsCerts then
    [{ name := "tls-certs",
       source := .secret (((w.nodePort.bind NodePortConfig.https).map
         NodePortHTTPSConfig.secretName).getD "") (some false) [] }]
   else [])

/-- `getWebResourceRequirements`: the spec's requirements, or the defaults. -/
def getWebResourceRequirements (kn : KubeNova) : ResourceRequirements :=
  kn.spec.web.resources.getD
    { requests := some ⟨[("memory", "128Mi"), ("cpu", "100m")]⟩
      limits := some ⟨[("memory", "512Mi"), ("cpu", "500m")]⟩ }

/-- `buildWebDeployment`: nginx serving the front end; no service account is set. -/
def buildWebDeployment (kn : KubeNova) (ns : String) : Deployment :=
  let registry := kn.getImageRegistry
  let image := if kn.spec.web.image ≠ "" then kn.spec.web.image
    else registry.registry ++ "/" ++ registry.organization ++ "/kube-nova-web:" ++ registry.tag
  { name := "kube-nova-web"
    spec :=
      { replicas := some kn.spec.web.getWebReplicas
        containers :=
          [{ name := "kube-nova-web"
             image := image
             imagePullPolicy := registry.pullPolicy
             ports := getWebPorts kn
             env := [{ name := "TZ", value := "Asia/Shanghai" },
                     { name := "NGINX_WORKER_PROCESSES", value := "auto" },
                     { name := "NGINX_WORKER_CONNECTIONS", value := "4096" }]
             resources := getWebResourceRequirements kn
             volumeMounts := getWebVolumeMounts kn }]
        volumes := getWebVolumes kn ns
        imagePullSecrets := registry.pullSecrets } }

/-- `buildWebService`: ClusterIP in ingress mode; in node-port mode a NodePort Service with
the spec's ports and the HTTPS port when enabled. -/
def buildWebService (kn : KubeNova) (_ns : String) : Service :=
  let w := kn.spec.web
  let http : ServicePort := { name := "http", port := 80, targetPort := 80 }
  if w.exposeType = "ingress" then { name := "kube-nova-web", type := "ClusterIP", ports := [http] }
  else if w.exposeType = "nodeport" then
    let httpPort := (w.nodePort.map NodePortConfig.httpPort).getD 0
    let http := if httpPort > 0 then { http with nodePort := httpPort } else http
    let https : List ServicePort :=
      match w.nodePort.bind NodePortConfig.https with
      | some h =>
        if h.enabled then
          [{ name := "https", port := 443, targetPort := 443,
             nodePort := if h.port > 0 then h.port else 0 }]
        else []
      | none => []
    { name := "kube-nova-web", type := "NodePort", ports := http :: https }
  else { name := "kube-nova-web", type := "", ports := [http] }

/-- `buildWebIngress`: nil without an ingress block; TLS only with a secret named. -/
def buildWebIngress (kn : KubeNova) (_ns : String) : Option Ingress :=
  kn.spec.web.ingress.map fun ing =>
    { name := "kube-nova-web", className := ing.className, host := ing.host,
      tlsSecrets :=
        match ing.tls with
        | some t => if t.enabled && t.secretName != "" then [t.secretName] else []
        | none => [] }

/-- `WebResources`. -/
structure WebResources where
  deployment : Deployment
  service : Service
  ingress : Option Ingress
  nginxConfigMap : Option ConfigMap
  deriving DecidableEq, Repr

/-- `BuildWebResources`. -/
def buildWebResources (kn : KubeNova) (ns : String) : WebResources :=
  { nginxConfigMap :=
      if kn.spec.web.customNginxConfigMap = "" then some (buildNginxConfigMap kn ns) else none
    deployment := buildWebDeployment kn ns
    service := buildWebService kn ns
    ingress := if kn.spec.web.exposeType = "ingress" then buildWebIngress kn ns else none }

end KubeNovaOperator
