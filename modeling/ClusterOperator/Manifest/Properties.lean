/-!
# Server properties

The properties that servers start with when a deployment declares no configuration of its own. The
values in braces are filled in from the environment when a server starts.

## Main definitions

* `Manifest.serverProperties`: the text of the properties.
-/

namespace ClusterOperator

namespace Manifest

/-- The lines of the server properties. -/
def serverPropertyLines : List String :=
  ["# spring",
    "server.servlet.contextPath=$\x7bSERVER_SERVLET_CONTEXTPATH:/nacos\x7d",
    "server.contextPath=/nacos",
    "server.port=$\x7bNACOS_APPLICATION_PORT:8848\x7d",
    "spring.datasource.platform=$\x7bSPRING_DATASOURCE_PLATFORM:\"\"\x7d",
    "nacos.cmdb.dumpTaskInterval=3600",
    "nacos.cmdb.eventTaskInterval=10",
    "nacos.cmdb.labelTaskInterval=300",
    "nacos.cmdb.loadDataAtStart=false",
    "db.num=$\x7bMYSQL_DATABASE_NUM:1\x7d",
    "db.url.0=jdbc:mysql://$\x7bMYSQL_SERVICE_HOST\x7d:$\x7bMYSQL_SERVICE_PORT:3306\x7d/$" ++
      "\x7bMYSQL_SERVICE_DB_NAME\x7d?$\x7bMYSQL_SERVICE_DB_PARAM:characterEncoding=utf8&con" ++
      "nectTimeout=1000&socketTimeout=3000&autoReconnect=true\x7d",
    "db.user=$\x7bMYSQL_SERVICE_USER\x7d",
    "db.password=$\x7bMYSQL_SERVICE_PASSWORD\x7d",
    "### auth",
    "nacos.core.auth.enabled=$\x7bNACOS_AUTH_ENABLE:false\x7d",
    "nacos.core.auth.system.type=$\x7bNACOS_AUTH_SYSTEM_TYPE:nacos\x7d",
    "nacos.core.auth.default.token.expire.seconds=$\x7bNACOS_AUTH_TOKEN_EXPIRE_SECONDS:18" ++
      "000\x7d",
    "nacos.core.auth.default.token.secret.key=$\x7bNACOS_AUTH_TOKEN:SecretKey012345678901" ++
      "234567890123456789012345678901234567890123456789\x7d",
    "nacos.core.auth.caching.enabled=$\x7bNACOS_AUTH_CACHE_ENABLE:false\x7d",
    "nacos.core.auth.enable.userAgentAuthWhite=$\x7bNACOS_AUTH_USER_AGENT_AUTH_WHITE_ENAB" ++
      "LE:false\x7d",
    "nacos.core.auth.server.identity.key=$\x7bNACOS_AUTH_IDENTITY_KEY:serverIdentity\x7d",
    "nacos.core.auth.server.identity.value=$\x7bNACOS_AUTH_IDENTITY_VALUE:security\x7d",
    "### logging",
    "server.tomcat.accesslog.enabled=$\x7bTOMCAT_ACCESSLOG_ENABLED:false\x7d",
    "server.tomcat.accesslog.pattern=%h %l %u %t \"%r\" %s %b %D",
    "server.tomcat.basedir=",
    "### security",
    "nacos.security.ignore.urls=$\x7bNACOS_SECURITY_IGNORE_URLS:/,/error,/**/*.css,/**/*." ++
      "js,/**/*.html,/**/*.map,/**/*.svg,/**/*.png,/**/*.ico,/console-fe/public/**,/v1/auth" ++
      "/**,/v1/console/health/**,/actuator/**,/v1/console/server/**\x7d",
    "management.metrics.export.elastic.enabled=false",
    "management.metrics.export.influx.enabled=false",
    "### distro",
    "nacos.naming.distro.taskDispatchThreadCount=10",
    "nacos.naming.distro.taskDispatchPeriod=200",
    "nacos.naming.distro.batchSyncKeyCount=1000",
    "nacos.naming.distro.initDataRatio=0.9",
    "nacos.naming.distro.syncRetryDelay=5000",
    "nacos.naming.data.warmup=true"]

/-- The text of the server properties: each line is ended. -/
def serverProperties : String := String.join (serverPropertyLines.map fun line => line ++ "\n")

end Manifest

end ClusterOperator
